import MarketChat.Url.Parse
import Mathlib
/-!
# Form-encoded pairs read back

A query of name-value pairs is written by form encoding (`Url.formEncode`): each text as its
UTF-8 bytes, letters, digits and `*-._` kept, a space as `+`, every other byte as `%XX`; the
pairs are written `name=value` and joined by `&` (`Url.appendPairs`). This module reads such a
query back the way `application/x-www-form-urlencoded` parsing does (`Url.formDecode`): split at
`&`, drop the empty sequences, split each at its first `=`, read `+` as a space, read the
escapes, and read the bytes as UTF-8.

The two are inverse: pairs appended to a URL without a query read back as exactly those pairs,
in order, whatever characters the names and values hold (`Url.queryPairs_appendPairs`). The
argument has three layers, each a lemma of its own:

* UTF-8: the bytes of a character decode to that character (`utf8Decode_utf8Bytes_append`);
* escapes: a byte as form encoding writes it is read back as that byte, `+` included, because
  a literal `+` is escaped and so never mistaken for a space (`percentDecodeChars_formByte`);
* splitting: form encoding writes neither `&` nor `=`, so the separators fall where the
  writer put them (`formEncode_no_separator`).

Reading is strict UTF-8 here (`none` on ill-formed bytes) where browsers substitute; the two
agree on everything form encoding writes, which is all that is read back below.

Main definitions: `Url.formDecode`, `Url.queryPairs`. Main statement:
`Url.queryPairs_appendPairs`.
-/

namespace MarketChat

namespace Url

/-! ## UTF-8 -/

theorem contBits_add {x : Nat} (h : x < 64) : contBits (0x80 + x) = some x := by
  unfold contBits
  rw [if_pos (by simp only [Bool.and_eq_true, decide_eq_true_eq]; omega), Nat.add_sub_cancel_left]

theorem utf8Decode_cons_ascii {b : Nat} (h : b < 0x80) (rest : List Nat) :
    utf8Decode (b :: rest) = (Char.ofNat b :: ·) <$> utf8Decode rest := by
  rw [utf8Decode.eq_def]
  simp only [h, if_true]

/-- The bytes of a character read back as that character, whatever follows them. -/
theorem utf8Decode_utf8Bytes_append (c : Char) (rest : List Nat) :
    utf8Decode (utf8Bytes c ++ rest) = (c :: ·) <$> utf8Decode rest := by
  have hv : c.toNat < 0xD800 ∨ (0xDFFF < c.toNat ∧ c.toNat < 0x110000) := c.valid
  by_cases h1 : c.toNat < 0x80
  · -- one byte
    simp only [utf8Bytes, h1, if_true, List.cons_append, List.nil_append]
    rw [utf8Decode_cons_ascii h1, Char.ofNat_toNat]
  by_cases h2 : c.toNat < 0x800
  · -- two bytes: a lead byte of `C2`–`DF` and one continuation
    simp only [utf8Bytes, h1, h2, if_false, if_true, List.cons_append, List.nil_append]
    have hlead : (decide (0xC2 ≤ 0xC0 + c.toNat / 64) && decide (0xC0 + c.toNat / 64 < 0xE0))
        = true := by
      simp only [Bool.and_eq_true, decide_eq_true_eq]; omega
    have hn : (0xC0 + c.toNat / 64 - 0xC0) * 64 + c.toNat % 64 = c.toNat := by omega
    rw [utf8Decode.eq_def]
    simp only [show ¬0xC0 + c.toNat / 64 < 0x80 by omega, hlead, if_false, if_true,
      contBits_add (show c.toNat % 64 < 64 by omega), Option.bind_eq_bind, Option.bind_some, hn]
    cases utf8Decode rest <;> simp
  by_cases h3 : c.toNat < 0x10000
  · -- three bytes; a surrogate is no character, so the decoder's range check passes
    simp only [utf8Bytes, h1, h2, h3, if_false, if_true, List.cons_append, List.nil_append]
    have hlead₂ : (decide (0xC2 ≤ 0xE0 + c.toNat / 4096) && decide (0xE0 + c.toNat / 4096 < 0xE0))
        = false := by
      simp only [Bool.and_eq_false_iff, decide_eq_false_iff_not]; omega
    have hlead₃ : (decide (0xE0 ≤ 0xE0 + c.toNat / 4096) && decide (0xE0 + c.toNat / 4096 < 0xF0))
        = true := by
      simp only [Bool.and_eq_true, decide_eq_true_eq]; omega
    have hn : (0xE0 + c.toNat / 4096 - 0xE0) * 4096 + c.toNat / 64 % 64 * 64 + c.toNat % 64 =
        c.toNat := by omega
    have hrange : ¬(c.toNat < 0x800 ∨ (0xD800 ≤ c.toNat ∧ c.toNat < 0xE000)) := by omega
    rw [utf8Decode.eq_def]
    simp only [show ¬0xE0 + c.toNat / 4096 < 0x80 by omega, hlead₂, hlead₃, if_false, if_true,
      Bool.false_eq_true, contBits_add (show c.toNat / 64 % 64 < 64 by omega),
      contBits_add (show c.toNat % 64 < 64 by omega), Option.bind_eq_bind, Option.bind_some, hn,
      hrange]
    cases utf8Decode rest <;> simp
  · -- four bytes, for the characters above the basic plane
    simp only [utf8Bytes, h1, h2, h3, if_false, List.cons_append, List.nil_append]
    have hlead₂ : (decide (0xC2 ≤ 0xF0 + c.toNat / 262144) &&
        decide (0xF0 + c.toNat / 262144 < 0xE0)) = false := by
      simp only [Bool.and_eq_false_iff, decide_eq_false_iff_not]; omega
    have hlead₃ : (decide (0xE0 ≤ 0xF0 + c.toNat / 262144) &&
        decide (0xF0 + c.toNat / 262144 < 0xF0)) = false := by
      simp only [Bool.and_eq_false_iff, decide_eq_false_iff_not]; omega
    have hlead₄ : (decide (0xF0 ≤ 0xF0 + c.toNat / 262144) &&
        decide (0xF0 + c.toNat / 262144 < 0xF5)) = true := by
      simp only [Bool.and_eq_true, decide_eq_true_eq]; omega
    have hn : (0xF0 + c.toNat / 262144 - 0xF0) * 262144 + c.toNat / 4096 % 64 * 4096 +
        c.toNat / 64 % 64 * 64 + c.toNat % 64 = c.toNat := by omega
    have hrange : ¬(c.toNat < 0x10000 ∨ 0x110000 ≤ c.toNat) := by omega
    rw [utf8Decode.eq_def]
    simp only [show ¬0xF0 + c.toNat / 262144 < 0x80 by omega, hlead₂, hlead₃, hlead₄, if_false,
      if_true, Bool.false_eq_true, contBits_add (show c.toNat / 4096 % 64 < 64 by omega),
      contBits_add (show c.toNat / 64 % 64 < 64 by omega),
      contBits_add (show c.toNat % 64 < 64 by omega), Option.bind_eq_bind, Option.bind_some, hn,
      hrange]
    cases utf8Decode rest <;> simp

/-- The UTF-8 bytes of characters read back as those characters. -/
theorem utf8Decode_flatMap_utf8Bytes (cs : List Char) :
    utf8Decode (cs.flatMap utf8Bytes) = some cs := by
  induction cs with
  | nil => rfl
  | cons c cs ih => rw [List.flatMap_cons, utf8Decode_utf8Bytes_append, ih]; rfl

/-- Every UTF-8 byte is a byte. -/
theorem lt_of_mem_utf8Bytes {c : Char} {b : Nat} (h : b ∈ utf8Bytes c) : b < 256 := by
  have hv : c.toNat < 0xD800 ∨ (0xDFFF < c.toNat ∧ c.toNat < 0x110000) := c.valid
  simp only [utf8Bytes] at h
  split at h
  · simp only [List.mem_singleton] at h; omega
  split at h
  · simp only [List.mem_cons, List.not_mem_nil, or_false] at h; omega
  split at h
  · simp only [List.mem_cons, List.not_mem_nil, or_false] at h; omega
  · simp only [List.mem_cons, List.not_mem_nil, or_false] at h; omega

/-! ## Escapes -/

theorem hexValue_hexUpper : ∀ d < 16, hexValue (hexUpper d) = some d := by decide

theorem hexUpper_ne_plus : ∀ d < 16, hexUpper d ≠ '+' := by decide

/-- A character other than `%` is read as its own bytes. -/
theorem percentDecodeChars_cons_of_ne {c : Char} (h : c ≠ '%') (rest : List Char) :
    percentDecodeChars (c :: rest) = utf8Bytes c ++ percentDecodeChars rest :=
  percentDecodeChars.eq_3 c rest fun _ _ _ hc _ => h hc

/-- An escaped byte is read back as that byte. -/
theorem percentDecodeChars_escapeByte {b : Nat} (h : b < 256) (rest : List Char) :
    percentDecodeChars (escapeByte b ++ rest) = b :: percentDecodeChars rest := by
  have hhi := hexValue_hexUpper (b / 16 % 16) (by omega)
  have hlo := hexValue_hexUpper (b % 16) (by omega)
  simp only [escapeByte, List.cons_append, List.nil_append, percentDecodeChars, hhi, hlo]
  congr 1
  omega

/-! ## Form components -/

/-- A character below the surrogates is the character of its code. -/
theorem toNat_ofNat_of_lt {b : Nat} (h : b < 0xD800) : (Char.ofNat b).toNat = b := by
  simp [Char.ofNat, Char.ofNatAux, Nat.isValidChar, h, Char.toNat]

/-- `+` read as a space, as form decoding does before it reads the escapes. -/
def plusToSpace (c : Char) : Char := if c = '+' then ' ' else c

/-- A form-encoded text read back: `+` is a space, escapes are read, and the bytes are read as
UTF-8; `none` when they are not UTF-8. -/
def formDecodeComponent (cs : List Char) : Option String :=
  String.ofList <$> utf8Decode (percentDecodeChars (cs.map plusToSpace))

/-- A byte that form encoding keeps is an ASCII character other than a space, `%`, `+`, `&`
and `=`. -/
theorem formKeeps_bounds {b : Nat} (h : formKeeps b = true) :
    b < 0x80 ∧ b ≠ 32 ∧ b ≠ 37 ∧ b ≠ 43 ∧ b ≠ 38 ∧ b ≠ 61 := by
  simp only [formKeeps, Bool.or_eq_true, Bool.and_eq_true, decide_eq_true_eq] at h
  omega

/-- A byte as form encoding writes it is read back as that byte. -/
theorem percentDecodeChars_formByte {b : Nat} (h : b < 256) (rest : List Char) :
    percentDecodeChars ((formByte b).map plusToSpace ++ rest) = b :: percentDecodeChars rest := by
  by_cases hsp : b = 32
  · -- a space is written `+`
    subst hsp
    rfl
  by_cases hkeep : formKeeps b = true
  · -- a kept byte is its own ASCII character
    obtain ⟨hlt, -, hpct, hplus, -⟩ := formKeeps_bounds hkeep
    have hc : (Char.ofNat b).toNat = b := toNat_ofNat_of_lt (by omega)
    have hne : Char.ofNat b ≠ '+' := fun e => hplus (by rw [← hc, e]; rfl)
    have hne' : Char.ofNat b ≠ '%' := fun e => hpct (by rw [← hc, e]; rfl)
    rw [formByte, if_neg hsp, if_pos hkeep, List.map_singleton, plusToSpace, if_neg hne,
      List.singleton_append, percentDecodeChars_cons_of_ne hne']
    simp only [utf8Bytes, hc, hlt, if_true, List.singleton_append]
  · -- any other byte is escaped, and an escape holds no `+`
    have hmap : (escapeByte b).map plusToSpace = escapeByte b := by
      simp only [escapeByte, List.map_cons, List.map_nil, plusToSpace,
        if_neg (hexUpper_ne_plus _ (show b / 16 % 16 < 16 by omega)),
        if_neg (hexUpper_ne_plus _ (show b % 16 < 16 by omega))]
      rfl
    rw [formByte, if_neg hsp, if_neg hkeep, hmap, percentDecodeChars_escapeByte h]

theorem percentDecodeChars_formBytes (bs : List Nat) (h : ∀ b ∈ bs, b < 256) :
    percentDecodeChars ((bs.flatMap formByte).map plusToSpace) = bs := by
  induction bs with
  | nil => rfl
  | cons b bs ih =>
    rw [List.flatMap_cons, List.map_append,
      percentDecodeChars_formByte (h b List.mem_cons_self),
      ih fun x hx => h x (List.mem_cons_of_mem b hx)]

/-- A form-encoded text reads back as itself. -/
theorem formDecodeComponent_formEncode (s : String) :
    formDecodeComponent (formEncode s).toList = some s := by
  have hbytes : ∀ b ∈ textBytes s, b < 256 := by
    intro b hb
    obtain ⟨c, -, hc⟩ := List.mem_flatMap.1 hb
    exact lt_of_mem_utf8Bytes hc
  rw [formDecodeComponent, formEncode, String.toList_ofList,
    percentDecodeChars_formBytes _ hbytes, textBytes, utf8Decode_flatMap_utf8Bytes]
  simp

/-- Form encoding writes neither `&` nor `=`: both are escaped. -/
theorem formEncode_no_separator (s : String) :
    ∀ c ∈ (formEncode s).toList, c ≠ '&' ∧ c ≠ '=' := by
  intro c hc
  rw [formEncode, String.toList_ofList] at hc
  obtain ⟨b, -, hcb⟩ := List.mem_flatMap.1 hc
  by_cases hsp : b = 32
  · rw [formByte, if_pos hsp, List.mem_singleton] at hcb
    subst hcb
    decide
  by_cases hkeep : formKeeps b = true
  · rw [formByte, if_neg hsp, if_pos hkeep, List.mem_singleton] at hcb
    subst hcb
    obtain ⟨hlt, -, -, -, hamp, heq⟩ := formKeeps_bounds hkeep
    have hc : (Char.ofNat b).toNat = b := toNat_ofNat_of_lt (by omega)
    exact ⟨fun e => hamp (by rw [← hc, e]; rfl), fun e => heq (by rw [← hc, e]; rfl)⟩
  · -- an escape is `%` and two hexadecimal digits
    have hd : ∀ d < 16, hexUpper d ≠ '&' ∧ hexUpper d ≠ '=' := by decide
    rw [formByte, if_neg hsp, if_neg hkeep] at hcb
    simp only [escapeByte, List.mem_cons, List.not_mem_nil, or_false] at hcb
    rcases hcb with rfl | rfl | rfl
    · decide
    · exact hd _ (by omega)
    · exact hd _ (by omega)

/-! ## Pairs -/

/-- The text form encoding writes for one pair. -/
def formPair (p : String × String) : List Char :=
  (formEncode p.1).toList ++ '=' :: (formEncode p.2).toList

/-- One `&`-separated sequence read back: a name up to its first `=`, a value after it. -/
def formDecodePair (part : List Char) : Option (String × String) :=
  let name := part.takeWhile (· ≠ '=')
  (Prod.mk · ·) <$> formDecodeComponent name <*> formDecodeComponent (part.drop (name.length + 1))

/-- A form-encoded text read back into its pairs: the sequences between `&` that are not empty,
each split at its first `=`. -/
def formDecode (q : String) : Option (List (String × String)) :=
  ((q.toList.splitOn '&').filter (!·.isEmpty)).mapM formDecodePair

/-- The pairs of a URL's query; a URL without a query has none. -/
def queryPairs (u : Url) : Option (List (String × String)) :=
  match u.query with
  | none => some []
  | some q => formDecode q

theorem formDecodePair_formPair (p : String × String) : formDecodePair (formPair p) = some p := by
  have hname : (formPair p).takeWhile (· ≠ '=') = (formEncode p.1).toList := by
    rw [formPair, List.takeWhile_append_of_pos, List.takeWhile_cons_of_neg (by simp)]
    · rw [List.append_nil]
    · intro c hc
      simpa using (formEncode_no_separator p.1 c hc).2
  have hvalue : (formPair p).drop ((formEncode p.1).toList.length + 1) = (formEncode p.2).toList := by
    rw [formPair, ← List.singleton_append, ← List.append_assoc, List.drop_append_of_le_length]
    · simp
    · simp
  simp only [formDecodePair, hname, hvalue, formDecodeComponent_formEncode]
  rfl

theorem formPair_no_amp (p : String × String) : '&' ∉ formPair p := by
  intro h
  rcases List.mem_append.1 h with h | h
  · exact (formEncode_no_separator p.1 '&' h).1 rfl
  · rcases List.mem_cons.1 h with h | h
    · exact absurd h (by decide)
    · exact (formEncode_no_separator p.2 '&' h).1 rfl

/-- The pairs joined by `&` split back at `&`. -/
theorem splitOn_formPairs (p : String × String) (ps : List (String × String)) :
    (formPair p ++ ps.flatMap ('&' :: formPair ·)).splitOn '&' = (p :: ps).map formPair := by
  induction ps generalizing p with
  | nil => simp [List.splitOn_eq_singleton (formPair_no_amp p)]
  | cons p' ps ih =>
    rw [List.flatMap_cons, List.cons_append,
      List.splitOn_append_cons_self_of_not_mem (formPair_no_amp p), ih]
    rfl

theorem mapM_formDecodePair (ps : List (String × String)) :
    (ps.map formPair).mapM formDecodePair = some ps := by
  induction ps with
  | nil => rfl
  | cons p ps ih => simp [formDecodePair_formPair, ih]

theorem formDecode_formPairs (p : String × String) (ps : List (String × String)) :
    formDecode (String.ofList (formPair p ++ ps.flatMap ('&' :: formPair ·))) = some (p :: ps) := by
  have hne : ∀ q ∈ (p :: ps).map formPair, (!q.isEmpty) = true := by
    intro q hq
    obtain ⟨r, -, rfl⟩ := List.mem_map.1 hq
    simp [formPair]
  rw [formDecode, String.toList_ofList, splitOn_formPairs, List.filter_eq_self.2 hne,
    mapM_formDecodePair]

/-! ## Queries written by `appendPairs` -/

/-- One step of `appendPairs` after the first pair: `&`, then the pair. -/
theorem foldl_appendPair (q : String) (hq : q ≠ "") (ps : List (String × String)) :
    (ps.foldl (fun q (k, v) =>
      (if q.isEmpty then q else q ++ "&") ++ formEncode k ++ "=" ++ formEncode v) q).toList =
      q.toList ++ ps.flatMap ('&' :: formPair ·) := by
  induction ps generalizing q with
  | nil => simp
  | cons p ps ih =>
    have hq' : q.isEmpty = false := by simpa using hq
    rw [List.foldl_cons, ih _ (by simp), hq']
    simp [formPair]

/-- **Pairs appended to a URL without a query read back as exactly those pairs, in order.** -/
theorem queryPairs_appendPairs (u : Url) (hq : u.query.getD "" = "") (pairs : List (String × String))
    (hne : pairs ≠ []) : (u.appendPairs pairs).queryPairs = some pairs := by
  obtain ⟨⟨k, v⟩, ps, rfl⟩ := List.exists_cons_of_ne_nil hne
  have hfirst : (u.query.getD "").isEmpty = true := by rw [hq]; rfl
  have htext : String.ofList (formPair (k, v)) ≠ "" := by simp [formPair]
  -- the first pair is written without `&`, every later one after it
  have hquery : List.foldl (fun q (k, v) =>
      (if q.isEmpty then q else q ++ "&") ++ formEncode k ++ "=" ++ formEncode v)
      (u.query.getD "") ((k, v) :: ps) =
      String.ofList (formPair (k, v) ++ ps.flatMap ('&' :: formPair ·)) := by
    have hpair : (if (u.query.getD "").isEmpty then u.query.getD "" else u.query.getD "" ++ "&") ++
        formEncode k ++ "=" ++ formEncode v = String.ofList (formPair (k, v)) := by
      rw [hfirst, if_pos rfl, hq, ← String.toList_inj]
      simp [formPair]
    simp only [List.foldl_cons]
    rw [hpair, ← String.toList_inj, foldl_appendPair _ htext,
      String.toList_ofList, String.toList_ofList]
  simp only [queryPairs, appendPairs, hquery, formDecode_formPairs]

end Url

end MarketChat
