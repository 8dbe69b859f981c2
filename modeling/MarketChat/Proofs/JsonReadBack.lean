import MarketChat.Json.Read
import Mathlib
/-!
# Compact JSON text reads back

The reader gives back what the writer wrote. A string's quoted form reads as the string, an
integer's decimal text as the integer, a literal as itself, and the compact text of an array
or an object as that array or object, item by item and member by member, as long as its
nesting fits the reader's allowance. A double is the one exception the writer cannot promise
by itself: its shortest text is read back by a decimal-to-binary conversion that rounds twice,
so reading back a double is a property of that double (`Binary64.ReadsBack`), taken where it
holds.

Each lemma has the shape of a bridge between text and reader: if the text at the cursor
starts with the written form of `v`, followed by anything that may follow a value
(`Delimited`), the reader returns `v`, stops right after the written form, and keeps its
nesting allowance. Positions are never looked at, so the cursor's line and column are left
free.

A double is read back at the top of a text, with nothing after it. Reading it inside a larger
text rests on the number reader looking no further than the number (`Reader.Frames`): the
readers of digits, fraction and exponent read a prefix of their text and treat its end and a
following comma or bracket alike (`Reader.frames_number`), and a double's text is made of
digits, a point, signs and the exponent mark only, so no blank can follow it unread.

A value reads back (`Json.ReadsBack`) when its numbers are as the reader makes them and the
keys of its objects ascend strictly, which is what `Json.toValue` makes of any document.

Main statements: `Reader.string_quote`, `Reader.number_nat`, `Reader.number_negInt`,
`Reader.document_float`, `Reader.document_compact`, `Reader.value_compact`.
-/

namespace MarketChat

/-- What may follow a value inside JSON text: nothing, a comma, or a closing bracket. -/
def Delimited (more : List Char) : Prop := ∀ ch ∈ more.head?, ch = ',' ∨ ch = ']' ∨ ch = '}'

theorem Delimited.cases {more : List Char} (h : Delimited more) :
    more = [] ∨ ∃ t, more = ',' :: t ∨ more = ']' :: t ∨ more = '}' :: t := by
  cases more with
  | nil => exact .inl rfl
  | cons ch t =>
    rcases h ch rfl with rfl | rfl | rfl
    · exact .inr ⟨t, .inl rfl⟩
    · exact .inr ⟨t, .inr (.inl rfl)⟩
    · exact .inr ⟨t, .inr (.inr rfl)⟩

theorem Delimited.not_digit {more : List Char} (h : Delimited more) :
    ∀ ch ∈ more.head?, ch.isDigit = false := by
  intro ch hch
  rcases h ch hch with rfl | rfl | rfl <;> rfl

/-! ## The cursor -/

namespace Cursor

/-- Blanks are skipped only where there are blanks. -/
theorem skipBlank_of_head (c : Cursor)
    (h : ∀ ch ∈ c.rest.head?, ch ≠ ' ' ∧ ch ≠ '\t' ∧ ch ≠ '\r' ∧ ch ≠ '\n') :
    c.skipBlank = c := by
  obtain ⟨rest, line, column, depth⟩ := c
  unfold Cursor.skipBlank
  cases rest with
  | nil => rfl
  | cons ch t =>
    obtain ⟨h1, h2, h3, h4⟩ := h ch (by simp)
    rw [Cursor.skipBlank.go.eq_def]
    simp [h1, h2, h3, h4]

@[simp] theorem bump_depth (c : Cursor) : c.bump.depth = c.depth := by
  unfold bump
  split <;> rfl

theorem bump_rest {c : Cursor} {ch : Char} {t : List Char} (h : c.rest = ch :: t) :
    c.bump.rest = t := by
  unfold bump
  split <;> simp_all

theorem peek_of_rest {c : Cursor} {ch : Char} {t : List Char} (h : c.rest = ch :: t) :
    c.peek = some ch := by
  simp [peek, h]

end Cursor

/-! ## The text of a double -/

/-- A character of a number's text: a digit, a point, a sign or the exponent mark. -/
def NumberChar (ch : Char) : Prop := ch.isDigit ∨ ch = '.' ∨ ch = '-' ∨ ch = '+' ∨ ch = 'e'

instance : DecidablePred NumberChar := fun ch => by unfold NumberChar; infer_instance

/-- The text of a number after its sign: a digit, then number characters. -/
def NumberBody (l : List Char) : Prop := (∃ ch ∈ l.head?, ch.isDigit) ∧ ∀ ch ∈ l, NumberChar ch

theorem NumberChar.not_blank {ch : Char} (h : NumberChar ch) :
    ch ≠ ' ' ∧ ch ≠ '\t' ∧ ch ≠ '\r' ∧ ch ≠ '\n' := by
  rcases h with h | rfl | rfl | rfl | rfl
  · refine ⟨?_, ?_, ?_, ?_⟩ <;> (rintro rfl; exact absurd h (by decide))
  all_goals decide

theorem digits_of_mem_repr {n : Nat} {ch : Char} (h : ch ∈ (Nat.repr n).toList) :
    ch.isDigit = true := by
  rw [Nat.toList_repr] at h
  exact Nat.isDigit_of_mem_toDigits (by decide) (by decide) h

theorem repr_cons (n : Nat) : ∃ ch t, (Nat.repr n).toList = ch :: t := by
  cases h : (Nat.repr n).toList with
  | nil => exact absurd h (by rw [Nat.toList_repr]; exact Nat.toDigits_ne_nil)
  | cons ch t => exact ⟨ch, t, rfl⟩

/-- A body goes on with number characters. -/
theorem NumberBody.append {l₁ l₂ : List Char} (h₁ : NumberBody l₁)
    (h₂ : ∀ ch ∈ l₂, NumberChar ch) : NumberBody (l₁ ++ l₂) := by
  obtain ⟨⟨ch, hch, hd⟩, hall⟩ := h₁
  obtain ⟨a, t, rfl⟩ := List.exists_cons_of_ne_nil (List.ne_nil_of_mem (List.mem_of_mem_head? hch))
  refine ⟨⟨ch, by simpa using hch, hd⟩, fun c hc => ?_⟩
  rcases List.mem_append.1 hc with hc | hc
  · exact hall c hc
  · exact h₂ c hc

theorem numberBody_digit_cons {ch : Char} {t : List Char} (hd : ch.isDigit = true)
    (ht : ∀ c ∈ t, NumberChar c) : NumberBody (ch :: t) := by
  refine ⟨⟨ch, rfl, hd⟩, fun c hc => ?_⟩
  rcases List.mem_cons.1 hc with rfl | hc
  · exact .inl hd
  · exact ht c hc

theorem numberChars_repr (n : Nat) : ∀ ch ∈ (Nat.repr n).toList, NumberChar ch :=
  fun _ h => .inl (digits_of_mem_repr h)

theorem numberChars_zeros (n : Nat) : ∀ ch ∈ (Binary64.zeros n).toList, NumberChar ch := by
  intro ch h
  simp only [Binary64.zeros, String.toList_ofList, List.mem_replicate] at h
  rw [h.2]
  exact .inl (by decide)

/-- **A double's text is its sign and a body.** Its first character after the sign is a digit,
and every character is a digit, a point, a sign or the exponent mark. -/
theorem Binary64.jsonText_toList (x : Binary64) :
    ∃ body, x.jsonText.toList = (Binary64.signText x).toList ++ body ∧ NumberBody body := by
  unfold Binary64.jsonText
  split
  · refine ⟨_, String.toList_append, ?_⟩
    rw [show "0.0".toList = ['0', '.', '0'] by simp]
    exact numberBody_digit_cons (by decide) (by simp [NumberChar])
  obtain ⟨d, k⟩ := x.shortest .even
  refine ⟨_, String.toList_append, ?_⟩
  obtain ⟨ch, t, hct⟩ := repr_cons d
  have hch : ch.isDigit = true := @digits_of_mem_repr d ch (by simp [hct])
  have ht : ∀ c ∈ t, NumberChar c := fun c hc => numberChars_repr d c (by simp [hct, hc])
  simp only [hct]
  split_ifs with hwhole hpoint hsmall
  all_goals simp only [String.toList_append, String.toList_ofList, List.append_assoc]
  · -- the digits, zeros up to the point, and `.0`
    exact (numberBody_digit_cons hch ht).append
      (List.forall_mem_append.2 ⟨numberChars_zeros _, by simp [NumberChar]⟩)
  · -- a point among the digits
    obtain ⟨p, hp⟩ : ∃ p, (((ch :: t).length : Int) + k).toNat = p + 1 :=
      ⟨_, (Nat.succ_pred_eq_of_pos (by omega)).symm⟩
    rw [hp, List.take_succ_cons]
    refine (numberBody_digit_cons hch fun c hc => ht c (List.mem_of_mem_take hc)).append
      (List.forall_mem_append.2 ⟨by simp [NumberChar], fun c hc => ?_⟩)
    rcases List.mem_cons.1 (List.mem_of_mem_drop hc) with rfl | hc
    · exact .inl hch
    · exact ht c hc
  · -- `0.`, zeros, then the digits
    have hzero : "0.".toList = ['0', '.'] := by simp
    rw [hzero, List.cons_append, List.cons_append, List.nil_append]
    refine numberBody_digit_cons (by decide) (List.forall_mem_cons.2 ⟨by decide, ?_⟩)
    exact List.forall_mem_append.2 ⟨numberChars_zeros _, List.forall_mem_cons.2 ⟨.inl hch, ht⟩⟩
  all_goals
    -- a mantissa, the exponent mark, and the exponent's sign and digits
    refine NumberBody.append ?_
      (List.forall_mem_append.2 ⟨by simp [NumberChar], List.forall_mem_append.2 ⟨by simp [NumberChar], numberChars_repr _⟩⟩)
    cases t with
    | nil =>
      show NumberBody (String.singleton ch).toList
      rw [String.toList_singleton]
      exact numberBody_digit_cons hch (by simp)
    | cons c rest =>
      show NumberBody (String.singleton ch ++ "." ++ String.ofList (c :: rest)).toList
      simp only [String.toList_append, String.toList_singleton, String.toList_ofList,
        List.singleton_append]
      exact numberBody_digit_cons hch (List.forall_mem_append.2 ⟨by simp [NumberChar], ht⟩)

/-! ## Reader steps -/

namespace Reader

@[simp] theorem peek_bind {α : Type} (f : Option Char → Reader α) (c : Cursor) :
    (peek >>= f) c = f c.peek c := rfl

@[simp] theorem bump_bind {α : Type} (f : Unit → Reader α) (c : Cursor) :
    (bump >>= f) c = f () c.bump := rfl

@[simp] theorem skipBlank_bind {α : Type} (f : Option Char → Reader α) (c : Cursor) :
    (skipBlank >>= f) c = f c.skipBlank.peek c.skipBlank := rfl

@[simp] theorem pure_run {α : Type} (a : α) (c : Cursor) : (pure a : Reader α) c = .ok a c :=
  rfl

@[simp] theorem bump_run (c : Cursor) : bump c = .ok () c.bump := rfl

theorem bind_run_ok {α β : Type} {x : Reader α} {f : α → Reader β} {c c' : Cursor} {a : α}
    (h : x c = .ok a c') : (x >>= f) c = f a c' := by
  show EStateM.bind x f c = f a c'
  simp only [EStateM.bind, h]

theorem map_run_ok {α β : Type} {x : Reader α} {f : α → β} {c c' : Cursor} {a : α}
    (h : x c = .ok a c') : (f <$> x) c = .ok (f a) c' := by
  show EStateM.map f x c = .ok (f a) c'
  simp only [EStateM.map, h]

theorem placing_ok {α : Type} {r : Reader α} {c c' : Cursor} {a : α} (h : r c = .ok a c') :
    placing r c = .ok a c' := by
  simp only [placing, h]

theorem thenClose_ok {α : Type} {r : Reader α} {after : Reader Unit} {c c₁ c₂ : Cursor} {a : α}
    (h : r c = .ok a c₁) (hafter : after c₁ = .ok () c₂) : thenClose r after c = .ok a c₂ := by
  simp only [thenClose, h, hafter]

/-! ## Strings -/

theorem stringBody_quote {fuel : Nat} {acc : List Char} {c : Cursor} (h : c.peek = some '"') :
    stringBody (fuel + 1) acc c = .ok (String.ofList acc.reverse) c.bump := by
  rw [stringBody, peek_bind, h]
  rfl

theorem stringBody_backslash {fuel : Nat} {acc : List Char} {c : Cursor}
    (h : c.peek = some '\\') :
    stringBody (fuel + 1) acc c = (escape >>= fun ch => stringBody fuel (ch :: acc)) c.bump := by
  rw [stringBody, peek_bind, h]
  rfl

theorem stringBody_plain {fuel : Nat} {acc : List Char} {c : Cursor} {ch : Char}
    (h : c.peek = some ch) (hq : ch ≠ '"') (hb : ch ≠ '\\') (hc : ¬ch.toNat < 0x20) :
    stringBody (fuel + 1) acc c = stringBody fuel (ch :: acc) c.bump := by
  rw [stringBody, peek_bind, h]
  erw [stringBody.match_1.eq_4 _ _ _ _ _ _ hq hb]
  rw [if_neg hc, bump_bind]

/-- A short escape, its backslash read, gives its character. -/
theorem escape_short {c : Cursor} {e : Char} (h : c.peek = some e) (r : Char)
    (hr : (e = '"' ∧ r = '"') ∨ (e = '\\' ∧ r = '\\') ∨ (e = 'n' ∧ r = '\n') ∨
      (e = 'r' ∧ r = '\r') ∨ (e = 't' ∧ r = '\t') ∨ (e = 'b' ∧ r = '\x08') ∨
      (e = 'f' ∧ r = '\x0c')) :
    escape c = .ok r c.bump := by
  rw [escape, peek_bind, h]
  rcases hr with ⟨rfl, rfl⟩ | ⟨rfl, rfl⟩ | ⟨rfl, rfl⟩ | ⟨rfl, rfl⟩ | ⟨rfl, rfl⟩ | ⟨rfl, rfl⟩ |
    ⟨rfl, rfl⟩ <;> rfl

theorem hexValue_hexDigit : ∀ k, k < 16 → hexValue (Json.hexDigit k) = some k := by
  decide

theorem hexValue_zero : hexValue '0' = some 0 := by decide

/-- The `\u00xx` escape of a control character, its `u` read, gives the character. -/
theorem unicodeEscape_control {c : Cursor} {ch : Char} {rest : List Char} (hch : ch.toNat < 0x20)
    (h : c.rest = '0' :: '0' :: Json.hexDigit (ch.toNat / 16) :: Json.hexDigit (ch.toNat % 16) ::
      rest) :
    ∃ c', unicodeEscape c = .ok ch c' ∧ c'.rest = rest ∧ c'.depth = c.depth := by
  have hhi : ch.toNat / 16 < 16 := by omega
  have hlo : ch.toNat % 16 < 16 := Nat.mod_lt _ (by omega)
  have hval : ((0 * 16 + 0) * 16 + ch.toNat / 16) * 16 + ch.toNat % 16 = ch.toNat := by omega
  have hhex : hexEscape c = .ok ch.toNat { c with rest := rest, column := c.column + 4 } := by
    simp only [hexEscape, h, hexValue_zero, hexValue_hexDigit _ hhi, hexValue_hexDigit _ hlo, hval]
  refine ⟨{ c with rest := rest, column := c.column + 4 }, ?_, rfl, rfl⟩
  rw [unicodeEscape, bind_run_ok hhex, if_neg (by omega), if_neg (by omega), pure_run,
    Char.ofNat_toNat]

/-- The written form of one character, inside a string, reads back as that character. -/
theorem stringBody_escapeChar (ch : Char) (fuel : Nat) (acc : List Char) (c : Cursor)
    (rest : List Char) (hc : c.rest = Json.escapeChar ch ++ rest) :
    ∃ c₁ : Cursor, c₁.rest = rest ∧ c₁.depth = c.depth ∧
      stringBody (fuel + 1) acc c = stringBody fuel (ch :: acc) c₁ := by
  -- a short escape: a backslash, then the letter `escape_short` knows
  have hshort : ∀ e, (e = '"' ∧ ch = '"') ∨ (e = '\\' ∧ ch = '\\') ∨ (e = 'n' ∧ ch = '\n') ∨
      (e = 'r' ∧ ch = '\r') ∨ (e = 't' ∧ ch = '\t') ∨ (e = 'b' ∧ ch = '\x08') ∨
      (e = 'f' ∧ ch = '\x0c') → c.rest = '\\' :: e :: rest →
      ∃ c₁ : Cursor, c₁.rest = rest ∧ c₁.depth = c.depth ∧
        stringBody (fuel + 1) acc c = stringBody fuel (ch :: acc) c₁ := by
    intro e he hrest
    refine ⟨c.bump.bump, Cursor.bump_rest (Cursor.bump_rest hrest), by simp, ?_⟩
    rw [stringBody_backslash (Cursor.peek_of_rest hrest),
      bind_run_ok (escape_short (Cursor.peek_of_rest (Cursor.bump_rest hrest)) ch he)]
  unfold Json.escapeChar at hc
  split at hc
  · exact hshort '"' (.inl ⟨rfl, rfl⟩) hc
  · exact hshort '\\' (.inr (.inl ⟨rfl, rfl⟩)) hc
  · exact hshort 'n' (.inr (.inr (.inl ⟨rfl, rfl⟩))) hc
  · exact hshort 'r' (.inr (.inr (.inr (.inl ⟨rfl, rfl⟩)))) hc
  · exact hshort 't' (.inr (.inr (.inr (.inr (.inl ⟨rfl, rfl⟩))))) hc
  · exact hshort 'b' (.inr (.inr (.inr (.inr (.inr (.inl ⟨rfl, rfl⟩)))))) hc
  · exact hshort 'f' (.inr (.inr (.inr (.inr (.inr (.inr ⟨rfl, rfl⟩)))))) hc
  · rename_i hq hb _ _ _ _ _
    split at hc
    · -- another control character: `\u00` and two hex digits
      rename_i hctl
      simp only [List.cons_append] at hc
      have hu : c.bump.rest = 'u' :: '0' :: '0' :: Json.hexDigit (ch.toNat / 16) ::
          Json.hexDigit (ch.toNat % 16) :: rest := Cursor.bump_rest hc
      obtain ⟨c₁, hesc, hrest, hdepth⟩ := unicodeEscape_control hctl (Cursor.bump_rest hu)
      refine ⟨c₁, hrest, by simp [hdepth], ?_⟩
      have hescape : escape c.bump = .ok ch c₁ := by
        rw [escape, peek_bind, Cursor.peek_of_rest hu]
        exact hesc
      rw [stringBody_backslash (Cursor.peek_of_rest hc), bind_run_ok hescape]
    · -- any other character stands for itself
      rename_i hplain
      simp only [List.singleton_append] at hc
      exact ⟨c.bump, Cursor.bump_rest hc, by simp,
        stringBody_plain (Cursor.peek_of_rest hc) hq hb hplain⟩

theorem length_le_flatMap_escapeChar (cs : List Char) :
    cs.length ≤ (cs.flatMap Json.escapeChar).length := by
  induction cs with
  | nil => simp
  | cons ch cs ih =>
    have hone : 1 ≤ (Json.escapeChar ch).length := by
      unfold Json.escapeChar
      split
      all_goals try simp
      split <;> simp
    simp only [List.flatMap_cons, List.length_append, List.length_cons]
    omega

/-- The written characters of a string, then the closing quote, read back as the string. -/
theorem stringBody_escaped (cs : List Char) (fuel : Nat) (acc : List Char) (c : Cursor)
    (more : List Char) (hfuel : cs.length < fuel)
    (hc : c.rest = cs.flatMap Json.escapeChar ++ '"' :: more) :
    ∃ c', stringBody fuel acc c = .ok (String.ofList (acc.reverse ++ cs)) c' ∧
      c'.rest = more ∧ c'.depth = c.depth := by
  induction cs generalizing fuel acc c with
  | nil =>
    obtain ⟨fuel, rfl⟩ : ∃ f, fuel = f + 1 := ⟨fuel - 1, by simp at hfuel; omega⟩
    simp only [List.flatMap_nil, List.nil_append] at hc
    exact ⟨c.bump, by rw [stringBody_quote (Cursor.peek_of_rest hc), List.append_nil],
      Cursor.bump_rest hc, by simp⟩
  | cons ch cs ih =>
    obtain ⟨fuel, rfl⟩ : ∃ f, fuel = f + 1 := ⟨fuel - 1, by simp at hfuel; omega⟩
    rw [List.flatMap_cons, List.append_assoc] at hc
    obtain ⟨c₁, hrest, hdepth, hstep⟩ := stringBody_escapeChar ch fuel acc c _ hc
    obtain ⟨c', hread, hmore, hdepth'⟩ :=
      ih fuel (ch :: acc) c₁ (by simp at hfuel; omega) hrest
    refine ⟨c', ?_, hmore, hdepth'.trans hdepth⟩
    rw [hstep, hread, List.reverse_cons, List.append_assoc, List.singleton_append]

/-- **A quoted string reads back.** After its opening quote, the written form of `s` reads as
`s`, up to and including the closing quote. -/
theorem string_quote (s : String) (c : Cursor) (more : List Char)
    (hc : c.rest = s.toList.flatMap Json.escapeChar ++ '"' :: more) :
    ∃ c', string c = .ok s c' ∧ c'.rest = more ∧ c'.depth = c.depth := by
  have hfuel : s.toList.length < c.rest.length + 1 := by
    have := length_le_flatMap_escapeChar s.toList
    simp only [hc, List.length_append, List.length_cons]
    omega
  obtain ⟨c', hread, hmore, hdepth⟩ := stringBody_escaped s.toList _ [] c more hfuel hc
  refine ⟨c', ?_, hmore, hdepth⟩
  rw [string, hread, List.reverse_nil, List.nil_append, String.ofList_toList]

/-- The written form of a string: its opening quote, then what `string_quote` reads. -/
theorem quote_toList (s : String) :
    (Json.quote s).toList = '"' :: (s.toList.flatMap Json.escapeChar ++ ['"']) := by
  simp [Json.quote]

/-! ## Integers -/

/-- A natural number's digits end where a delimiter begins. -/
theorem numberTail_nat {s : Nat} {c : Cursor} (hc : Delimited c.rest) :
    numberTail true s 0 true c = .ok (.nat s) c := by
  rcases Delimited.cases hc with h | ⟨t, h | h | h⟩ <;>
  · simp [numberTail, numberEnd, Cursor.peek, h]

theorem numberTail_negInt {s : Nat} {c : Cursor} (hc : Delimited c.rest) (h0 : 0 < s)
    (h63 : s ≤ 2 ^ 63) : numberTail false s 0 true c = .ok (.negInt (-(s : Int))) c := by
  have h63' : s ≤ 9223372036854775808 := h63
  rcases Delimited.cases hc with h | ⟨t, h | h | h⟩ <;>
  · simp [numberTail, numberEnd, Cursor.peek, h, h63', Nat.pos_iff_ne_zero.1 h0]

theorem isDigit_of_mem_toDigits {n : Nat} : ∀ ch ∈ Nat.toDigits 10 n, ch.isDigit = true :=
  fun _ h => Nat.isDigit_of_mem_toDigits (by decide) (by decide) h

/-- The decimal digits of a positive number do not start with a zero. -/
theorem toDigits_head_ne_zero {n : Nat} (hn : 0 < n) : (Nat.toDigits 10 n).head? ≠ some '0' := by
  induction n using Nat.strongRecOn with
  | ind n ih =>
    rw [Nat.toDigits_eq_if (by decide)]
    split
    · rename_i hlt
      have hdigit : ∀ k < 10, 0 < k → Nat.digitChar k ≠ '0' := by decide
      simpa using hdigit n hlt hn
    · have hpos : 0 < n / 10 := by omega
      obtain ⟨d, ds, hds⟩ := List.exists_cons_of_ne_nil (@Nat.toDigits_ne_nil (n / 10) 10)
      have hhead := ih (n / 10) (by omega) hpos
      rw [hds] at hhead ⊢
      simpa using hhead

/-- The digits reader takes every digit and stops at the delimiter. -/
theorem digits_run {ds more : List Char} {c : Cursor} (hds : ∀ ch ∈ ds, ch.isDigit = true)
    (hc : c.rest = ds ++ more) (hmore : Delimited more) :
    ∃ c', digits c = .ok (ds.map fun d => d.toNat - '0'.toNat) c' ∧ c'.rest = more ∧
      c'.depth = c.depth := by
  have htake : c.rest.takeWhile Char.isDigit = ds := by
    rw [hc, List.takeWhile_append_of_pos hds]
    cases more with
    | nil => simp
    | cons ch t => simp [hmore.not_digit ch rfl]
  have hdrop : c.rest.drop ds.length = more := by rw [hc, List.drop_left]
  refine ⟨{ c with rest := more, column := c.column + ds.length }, ?_, rfl, rfl⟩
  simp only [digits, htake, hdrop]

theorem le_foldl_digits (ds : List Nat) (s : Nat) : s ≤ ds.foldl (fun a d => a * 10 + d) s := by
  induction ds generalizing s with
  | nil => simp
  | cons d ds ih =>
    have := ih (s * 10 + d)
    simp only [List.foldl_cons]
    omega

/-- Digits whose number stays within 64 bits are all absorbed into the significand. -/
theorem absorb_all (ds : List Nat) (s : Nat)
    (h : ds.foldl (fun a d => a * 10 + d) s ≤ natLimit) :
    absorb s ds = (ds.foldl (fun a d => a * 10 + d) s, []) := by
  induction ds generalizing s with
  | nil => rfl
  | cons d ds ih =>
    have hle := le_foldl_digits ds (s * 10 + d)
    simp only [List.foldl_cons] at h ⊢
    rw [absorb, if_neg (by omega), ih _ h]

/-- The digit values of a number's decimal text, read most significant first, make the
number. -/
theorem foldl_toDigits (n : Nat) :
    ((Nat.toDigits 10 n).map fun d => d.toNat - '0'.toNat).foldl (fun a d => a * 10 + d) 0 =
      n := by
  have h := @Nat.ofDigitChars_ten_toDigits n
  rw [Nat.ofDigitChars_eq_foldl] at h
  rw [List.foldl_map]
  calc _ = (Nat.toDigits 10 n).foldl (fun a d => 10 * a + (d.toNat - '0'.toNat)) 0 := by
        congr 1
        funext a d
        omega
    _ = n := h

/-- The digits of `n`, then a delimiter, read as the significand `n`. -/
theorem number_digits {n : Nat} (hn : n ≤ natLimit) {c : Cursor} {more : List Char}
    (hc : c.rest = Nat.toDigits 10 n ++ more) (hmore : Delimited more) (p : Bool) :
    ∃ c₁, c₁.rest = more ∧ c₁.depth = c.depth ∧ number p c = numberTail p n 0 true c₁ := by
  rcases Nat.eq_zero_or_pos n with rfl | hpos
  · -- zero is its single digit
    rw [Nat.toDigits_zero, List.singleton_append] at hc
    refine ⟨c.bump, Cursor.bump_rest hc, by simp, ?_⟩
    obtain ⟨rest, line, column, depth⟩ := c
    simp only at hc
    subst hc
    rcases Delimited.cases hmore with rfl | ⟨t, rfl | rfl | rfl⟩ <;> rfl
  · -- otherwise a first digit other than zero starts the run of digits
    obtain ⟨d, ds, hds⟩ := List.exists_cons_of_ne_nil (@Nat.toDigits_ne_nil n 10)
    have hd : d ≠ '0' := by
      intro h
      apply toDigits_head_ne_zero hpos
      rw [hds, h]
      rfl
    have hdigit : d.isDigit = true := @isDigit_of_mem_toDigits n d (by simp [hds])
    obtain ⟨c₁, hrun, hrest, hdepth⟩ := digits_run isDigit_of_mem_toDigits hc hmore
    refine ⟨c₁, hrest, hdepth, ?_⟩
    have hpeek : c.peek = some d := by simp [Cursor.peek, hc, hds]
    have habsorb := absorb_all _ 0 ((foldl_toDigits n).symm ▸ hn)
    rw [foldl_toDigits] at habsorb
    rw [number, peek_bind, hpeek]
    erw [number.match_1.eq_3 _ _ _ _ _ hd]
    rw [if_pos hdigit, bind_run_ok hrun, habsorb]
    rfl

/-- **A natural number's decimal text reads back.** -/
theorem number_nat {n : Nat} (hn : n ≤ natLimit) {c : Cursor} {more : List Char}
    (hc : c.rest = (Nat.repr n).toList ++ more) (hmore : Delimited more) :
    ∃ c', number true c = .ok (.nat n) c' ∧ c'.rest = more ∧ c'.depth = c.depth := by
  rw [Nat.toList_repr] at hc
  obtain ⟨c₁, hrest, hdepth, hnum⟩ := number_digits hn hc hmore true
  exact ⟨c₁, by rw [hnum, numberTail_nat (hrest ▸ hmore)], hrest, hdepth⟩

/-- **A negative integer's text, after its minus sign, reads back.** -/
theorem number_negInt {i : Int} (hlo : -2 ^ 63 ≤ i) (hneg : i < 0) {c : Cursor}
    {more : List Char} (hc : c.rest = (Nat.repr i.natAbs).toList ++ more) (hmore : Delimited more) :
    ∃ c', number false c = .ok (.negInt i) c' ∧ c'.rest = more ∧ c'.depth = c.depth := by
  rw [Nat.toList_repr] at hc
  have habs : i.natAbs ≤ 2 ^ 63 := by omega
  obtain ⟨c₁, hrest, hdepth, hnum⟩ :=
    number_digits (n := i.natAbs) (by unfold natLimit; omega) hc hmore false
  refine ⟨c₁, ?_, hrest, hdepth⟩
  rw [hnum, numberTail_negInt (hrest ▸ hmore) (by omega) habs]
  congr 2
  omega

/-! ## The number reader looks no further than the number -/

theorem bind_run_inv {α β : Type} {x : Reader α} {f : α → Reader β} {c c' : Cursor} {b : β}
    (h : (x >>= f) c = .ok b c') : ∃ a c₁, x c = .ok a c₁ ∧ f a c₁ = .ok b c' := by
  change EStateM.bind x f c = .ok b c' at h
  simp only [EStateM.bind] at h
  cases hx : x c with
  | ok a s => rw [hx] at h; exact ⟨a, s, rfl, h⟩
  | error e s => rw [hx] at h; cases h

/-- What `r` did on a text, read from `c₁` to `c₁'`, it did within that text: it read a
prefix of it, and it reads the same from the text followed by a delimited rest, leaving what
it left there followed by that rest. -/
def Framed {α : Type} (r : Reader α) (c₁ : Cursor) (a : α) (c₁' : Cursor) : Prop :=
  c₁'.rest <:+ c₁.rest ∧
    ∀ ⦃c₂ : Cursor⦄ ⦃more : List Char⦄, Delimited more → c₂.rest = c₁.rest ++ more →
      ∃ c₂', r c₂ = .ok a c₂' ∧ c₂'.rest = c₁'.rest ++ more ∧ c₂'.depth = c₂.depth

/-- Reader `r` looks no further than what it reads: every read it makes is framed. -/
def Frames {α : Type} (r : Reader α) : Prop :=
  ∀ ⦃c₁ : Cursor⦄ ⦃a : α⦄ ⦃c₁' : Cursor⦄, r c₁ = .ok a c₁' → Framed r c₁ a c₁'

/-- `Frames`, for texts that are not yet at their end. -/
def FramesAt {α : Type} (r : Reader α) : Prop :=
  ∀ ⦃c₁ : Cursor⦄ ⦃a : α⦄ ⦃c₁' : Cursor⦄, c₁.rest ≠ [] → r c₁ = .ok a c₁' → Framed r c₁ a c₁'

theorem Frames.at {α : Type} {r : Reader α} (h : Frames r) : FramesAt r :=
  fun _ _ _ _ hr => h hr

theorem Frames.pure {α : Type} (a : α) : Frames (pure a : Reader α) := by
  intro c₁ b c₁' h
  obtain ⟨rfl, rfl⟩ : a = b ∧ c₁ = c₁' := by simpa [pure_run] using h
  exact ⟨List.suffix_refl _, fun c₂ _ _ hc => ⟨c₂, rfl, hc, rfl⟩⟩

/-- A reader that never succeeds frames vacuously. -/
theorem Frames.of_error {α : Type} {r : Reader α} (h : ∀ c, ∃ e c', r c = .error e c') :
    Frames r := by
  intro c₁ _ _ hr
  obtain ⟨e, c', he⟩ := h c₁
  rw [he] at hr
  cases hr

/-- Two framed reads one after the other make a framed read. -/
theorem Framed.bind {α β : Type} {x : Reader α} {f : α → Reader β} {c₁ c₁m c₁' : Cursor}
    {a : α} {b : β} (hx : Framed x c₁ a c₁m) (hf : Framed (f a) c₁m b c₁') :
    Framed (x >>= f) c₁ b c₁' := by
  obtain ⟨hsx, hx'⟩ := hx
  obtain ⟨hsf, hf'⟩ := hf
  refine ⟨hsf.trans hsx, fun c₂ more hmore hc => ?_⟩
  obtain ⟨c₂m, hx₂, hrm, hdm⟩ := hx' hmore hc
  obtain ⟨c₂', hf₂, hr', hd'⟩ := hf' hmore hrm
  exact ⟨c₂', by rw [bind_run_ok hx₂, hf₂], hr', hd'.trans hdm⟩

theorem Frames.bind {α β : Type} {x : Reader α} {f : α → Reader β} (hx : Frames x)
    (hf : ∀ a, Frames (f a)) : Frames (x >>= f) := by
  intro c₁ b c₁' h
  obtain ⟨a, c₁m, hx₁, hf₁⟩ := bind_run_inv h
  exact (hx hx₁).bind (hf a hf₁)

theorem FramesAt.bind {α β : Type} {x : Reader α} {f : α → Reader β} (hx : FramesAt x)
    (hf : ∀ a, Frames (f a)) : FramesAt (x >>= f) := by
  intro c₁ b c₁' hne h
  obtain ⟨a, c₁m, hx₁, hf₁⟩ := bind_run_inv h
  exact (hx hne hx₁).bind (hf a hf₁)

/-- Reading a character that is there frames: the delimited rest stays behind it. -/
theorem FramesAt.bump_bind {α : Type} {f : Unit → Reader α} (hf : Frames (f ())) :
    FramesAt (bump >>= f) := by
  intro c₁ a c₁' hne h
  obtain ⟨ch, t, ht⟩ := List.exists_cons_of_ne_nil hne
  rw [Reader.bump_bind] at h
  obtain ⟨hs, hf'⟩ := hf h
  have hbump : c₁.bump.rest <:+ c₁.rest := by
    rw [Cursor.bump_rest ht, ht]
    exact List.suffix_cons ch t
  refine ⟨hs.trans hbump, fun c₂ more hmore hc => ?_⟩
  have hc₂ : c₂.rest = ch :: (t ++ more) := by rw [hc, ht, List.cons_append]
  have hbump₂ : c₂.bump.rest = c₁.bump.rest ++ more := by
    rw [Cursor.bump_rest hc₂, Cursor.bump_rest ht]
  obtain ⟨c₂', hf₂, hr', hd'⟩ := hf' hmore hbump₂
  exact ⟨c₂', by rw [Reader.bump_bind]; exact hf₂, hr', by simp [hd']⟩

/-- A look at the next character frames when the continuation frames, and when it does at a
delimiter whatever it does at the end of the text. -/
theorem Frames.peek_bind {α : Type} {f : Option Char → Reader α}
    (hsome : ∀ ch, FramesAt (f (some ch))) (hnone : Frames (f none))
    (hend : ∀ d, (d = ',' ∨ d = ']' ∨ d = '}') → ∀ c a c', f none c = .ok a c' →
      f (some d) c = .ok a c') :
    Frames (peek >>= f) := by
  intro c₁ a c₁' h
  rw [Reader.peek_bind] at h
  cases hr : c₁.rest with
  | nil =>
    have hp₁ : c₁.peek = none := by simp [Cursor.peek, hr]
    rw [hp₁] at h
    obtain ⟨hs, hf'⟩ := hnone h
    refine ⟨hs, fun c₂ more hmore hc => ?_⟩
    obtain ⟨c₂', hf₂, hr', hd'⟩ := hf' hmore hc
    refine ⟨c₂', ?_, hr', hd'⟩
    rw [Reader.peek_bind]
    -- at a delimiter the continuation does what it does at the end
    rcases Delimited.cases hmore with rfl | ⟨t, rfl | rfl | rfl⟩
    all_goals simp only [Cursor.peek, hc, hr, List.nil_append, List.head?_nil, List.head?_cons]
    · exact hf₂
    · exact hend ',' (.inl rfl) _ _ _ hf₂
    · exact hend ']' (.inr (.inl rfl)) _ _ _ hf₂
    · exact hend '}' (.inr (.inr rfl)) _ _ _ hf₂
  | cons ch t =>
    have hp₁ : c₁.peek = some ch := by simp [Cursor.peek, hr]
    rw [hp₁] at h
    obtain ⟨hs, hf'⟩ := hsome ch (by simp [hr]) h
    refine ⟨hs, fun c₂ more hmore hc => ?_⟩
    have hp₂ : c₂.peek = some ch := by simp [Cursor.peek, hc, hr]
    rw [Reader.peek_bind, hp₂]
    exact hf' hmore hc

/-- Digits stop before a delimited rest. -/
theorem takeWhile_digits_append (l : List Char) {more : List Char} (hmore : Delimited more) :
    (l ++ more).takeWhile Char.isDigit = l.takeWhile Char.isDigit := by
  rw [List.takeWhile_append]
  split
  · next hall =>
    have hself := (List.takeWhile_prefix (p := Char.isDigit) (l := l)).eq_of_length hall
    cases more with
    | nil => simpa using hself.symm
    | cons ch t => simpa [hmore.not_digit ch rfl] using hself.symm
  · rfl

theorem frames_digits : Frames digits := by
  intro c₁ a c₁' h
  simp only [digits, EStateM.Result.ok.injEq] at h
  obtain ⟨rfl, rfl⟩ := h
  refine ⟨List.drop_suffix _ _, fun c₂ more hmore hc => ?_⟩
  have hlen : (c₁.rest.takeWhile Char.isDigit).length ≤ c₁.rest.length :=
    (List.takeWhile_sublist _).length_le
  simp only [digits, hc, takeWhile_digits_append _ hmore]
  refine ⟨_, rfl, ?_, rfl⟩
  simp only [List.drop_append_of_le_length hlen]

theorem frames_fail {α : Type} (k : Fault) : Frames (fail k : Reader α) :=
  Frames.of_error fun _ => ⟨_, _, rfl⟩

theorem frames_failNext {α : Type} (k : Fault) : Frames (failNext k : Reader α) :=
  Frames.of_error fun _ => ⟨_, _, rfl⟩

theorem frames_failAfterByte {α : Type} (k : Fault) : Frames (failAfterByte k : Reader α) :=
  Frames.of_error fun _ => ⟨_, _, rfl⟩

/-- A look at the next character whose continuation fails at the end of the text. -/
theorem Frames.peek_bind_of_fail {α : Type} {f : Option Char → Reader α}
    (hsome : ∀ ch, FramesAt (f (some ch))) (hnone : ∀ c, ∃ e c', f none c = .error e c') :
    Frames (peek >>= f) := by
  refine Frames.peek_bind hsome (Frames.of_error hnone) fun d _ c a c' h => ?_
  obtain ⟨e, c'', he⟩ := hnone c
  rw [he] at h
  cases h

theorem frames_float (p : Bool) (s : Nat) (e : Int) : Frames (float p s e) := by
  unfold float
  split
  · exact Frames.pure _
  · exact Frames.of_error fun c => ⟨_, _, rfl⟩

theorem frames_numberEnd (p : Bool) (s x : Nat) (e : Bool) : Frames (numberEnd p s x e) := by
  -- a double goes through `float`; every other number is returned as it is
  have hfloat : ∀ p s e, Frames (float p s e >>= fun y => pure (JsonNumber.float y)) :=
    fun p s e => (frames_float p s e).bind fun _ => Frames.pure _
  unfold numberEnd
  split_ifs
  · exact hfloat _ _ _
  · exact Frames.pure _
  · exact Frames.pure _
  · exact Frames.pure _
  · exact hfloat _ _ _

theorem expDigits_used_le (e : Nat) (ds : List Char) : (expDigits e ds).2.1 ≤ ds.length := by
  induction ds generalizing e with
  | nil => simp [expDigits]
  | cons d rest ih =>
    simp only [expDigits]
    split
    · simp
    · simpa using ih _

theorem frames_exponentDigits (p sign : Bool) (s : Nat) (start : Int) :
    Frames (exponentDigits p sign s start) := by
  intro c₁ a c₁' h
  have hused : (expDigits 0 (c₁.rest.takeWhile Char.isDigit)).2.1 ≤ c₁.rest.length :=
    Nat.le_trans (expDigits_used_le _ _) (List.takeWhile_sublist _).length_le
  -- on the longer text the exponent digits are the same, and so is what is made of them
  have hsame : ∀ {c₂ : Cursor} {more : List Char}, Delimited more → c₂.rest = c₁.rest ++ more →
      exponentDigits p sign s start c₂ = exponentDigits p sign s start
        { c₂ with rest := c₁.rest ++ more } := by
    intro c₂ more _ hc
    obtain ⟨rest, line, column, depth⟩ := c₂
    simp only at hc
    subst hc
    rfl
  unfold exponentDigits at h
  generalize hr : expDigits 0 (c₁.rest.takeWhile Char.isDigit) = r at h hused
  obtain ⟨e, used, overflow⟩ := r
  simp only at h hused
  cases overflow
  · simp only [Bool.false_eq_true, if_false] at h
    obtain ⟨hs, hf'⟩ := frames_float _ _ _ h
    refine ⟨hs.trans (List.drop_suffix _ _), fun c₂ more hmore hc => ?_⟩
    rw [hsame hmore hc]
    unfold exponentDigits
    simp only [takeWhile_digits_append _ hmore, hr, Bool.false_eq_true, if_false]
    exact hf' hmore (List.drop_append_of_le_length hused)
  · simp only [if_true] at h
    split at h
    · cases h
    · next hkeep =>
      simp only [EStateM.Result.ok.injEq] at h
      obtain ⟨rfl, rfl⟩ := h
      refine ⟨(List.drop_suffix _ _).trans (List.drop_suffix _ _), fun c₂ more hmore hc => ?_⟩
      have hlen : ((c₁.rest.drop used).takeWhile Char.isDigit).length ≤
          (c₁.rest.drop used).length :=
        (List.takeWhile_sublist _).length_le
      rw [hsame hmore hc]
      unfold exponentDigits
      simp only [takeWhile_digits_append _ hmore, hr, if_true, if_neg hkeep,
        List.drop_append_of_le_length hused, List.drop_append_of_le_length hlen]
      exact ⟨_, rfl, rfl, rfl⟩

/-- The digits of an exponent, once its sign is known. -/
theorem frames_exponentSigned (p : Bool) (s : Nat) (start : Int) (sign : Bool) :
    Frames (peek >>= fun o => match o with
      | none => fail .eofWhileParsingValue
      | some ch => if !ch.isDigit then failAfterByte .invalidNumber
        else exponentDigits p sign s start) := by
  refine Frames.peek_bind_of_fail (fun ch => ?_) fun _ => ⟨_, _, rfl⟩
  dsimp only
  split
  · exact (frames_failAfterByte _).at
  · exact (frames_exponentDigits _ _ _ _).at

theorem framesAt_exponent (p : Bool) (s : Nat) (start : Int) : FramesAt (exponent p s start) := by
  have hdigits := frames_exponentSigned p s start
  unfold exponent
  refine FramesAt.bump_bind (Frames.peek_bind (fun ch => ?_) ((Frames.pure _).bind hdigits) ?_)
  · split
    · exact FramesAt.bump_bind ((Frames.pure _).bind hdigits)
    · exact FramesAt.bump_bind ((Frames.pure _).bind hdigits)
    · exact ((Frames.pure _).bind hdigits).at
  · rintro d (rfl | rfl | rfl) c a c' h <;> exact h

theorem framesAt_fraction (p : Bool) (s : Nat) (start : Int) : FramesAt (fraction p s start) := by
  unfold fraction
  refine FramesAt.bump_bind (Frames.bind frames_digits fun ds => ?_)
  split
  · exact Frames.peek_bind_of_fail (fun _ => (frames_failNext _).at) fun _ => ⟨_, _, rfl⟩
  · split
    refine Frames.peek_bind (fun ch => ?_) (frames_float _ _ _) ?_
    · split
      · exact framesAt_exponent _ _ _
      · exact framesAt_exponent _ _ _
      · exact (frames_float _ _ _).at
    · rintro d (rfl | rfl | rfl) c a c' h <;> exact h

theorem frames_numberTail (p : Bool) (s x : Nat) (e : Bool) : Frames (numberTail p s x e) := by
  unfold numberTail
  refine Frames.peek_bind (fun ch => ?_) (frames_numberEnd _ _ _ _) ?_
  · split
    · exact (framesAt_fraction _ _ _).bind fun _ => Frames.pure _
    · exact (framesAt_exponent _ _ _).bind fun _ => Frames.pure _
    · exact (framesAt_exponent _ _ _).bind fun _ => Frames.pure _
    · exact (frames_numberEnd _ _ _ _).at
  · rintro d (rfl | rfl | rfl) c a c' h <;> exact h

/-- **The number reader frames.** Whatever it reads from a text, it reads from the text followed
by a delimiter, and leaves the delimiter. -/
theorem frames_number (p : Bool) : Frames (number p) := by
  unfold number
  refine Frames.peek_bind_of_fail (fun ch => ?_) fun _ => ⟨_, _, rfl⟩
  split
  · exact (frames_fail _).at
  · -- a leading zero takes no more digits
    refine FramesAt.bump_bind ?_
    refine Frames.peek_bind (fun ch => ?_) (frames_numberTail _ _ _ _) ?_
    · dsimp only
      split
      · exact (frames_failNext _).at
      · exact (frames_numberTail _ _ _ _).at
    · rintro d (rfl | rfl | rfl) c a c' h <;> exact h
  · split
    · exact (frames_digits.bind fun ds => by split; exact frames_numberTail _ _ _ _).at
    · exact (frames_failAfterByte _).at

/-! ## A double read back inside a text -/

/-- Blanks are skipped only where there are blanks: at a character that is none, the next
step sees it. -/
theorem skipBlank_bind_of_head {α : Type} (f : Option Char → Reader α) {c : Cursor} {ch : Char}
    {t : List Char} (hc : c.rest = ch :: t) (hb : ch ≠ ' ' ∧ ch ≠ '\t' ∧ ch ≠ '\r' ∧ ch ≠ '\n') :
    (skipBlank >>= f) c = f (some ch) c := by
  have hskip : c.skipBlank = c := Cursor.skipBlank_of_head c (by rw [hc]; simpa using hb)
  rw [skipBlank_bind, hskip, Cursor.peek_of_rest hc]

/-- At a minus sign, a document is a number. -/
theorem document_minus (d : Nat) {c : Cursor} {t : List Char} (hc : c.rest = '-' :: t) :
    document d c = (bump >>= fun _ => number false >>= fun n => pure (Json.num n)) c := by
  rw [document.eq_def, skipBlank_bind_of_head _ hc (by decide)]
  rfl

/-- At a digit, a document is a number. -/
theorem document_digit (d : Nat) {c : Cursor} {ch : Char} {t : List Char} (hc : c.rest = ch :: t)
    (hd : ch.isDigit = true) :
    document d c = (number true >>= fun n => pure (Json.num n)) c := by
  have hne : ∀ k : Char, k.isDigit = false → ch ≠ k := by
    rintro k hk rfl
    rw [hd] at hk
    cases hk
  rw [document.eq_def, skipBlank_bind_of_head _ hc (NumberChar.not_blank (.inl hd))]
  erw [document.match_3.eq_9 _ _ _ _ _ _ _ _ _ _ _ (hne 'n' rfl) (hne 't' rfl) (hne 'f' rfl)
    (hne '-' rfl) (hne '"' rfl) (hne '[' rfl) (hne '{' rfl)]
  rw [if_pos hd]

/-- A whole text read: the reader's read, after which only blanks are left. -/
theorem run_ok_inv {α : Type} {r : Reader α} {s : String} {a : α} (h : run r s = .ok a) :
    ∃ c₁, r (Cursor.start s) = .ok a c₁ ∧ c₁.skipBlank.peek = none := by
  unfold run at h
  dsimp only at h
  split at h
  · next a' c' hfull =>
    obtain ⟨a₁, c₁, hr, hend⟩ := bind_run_inv hfull
    rw [skipBlank_bind] at hend
    cases hp : c₁.skipBlank.peek with
    | none =>
      rw [hp] at hend
      obtain ⟨rfl, -⟩ : a₁ = a' ∧ _ := by simpa using hend
      cases h
      exact ⟨c₁, hr, hp⟩
    | some ch =>
      rw [hp] at hend
      cases hend
  · cases h

theorem map_run_inv {α β : Type} {x : Reader α} {f : α → β} {c c' : Cursor} {b : β}
    (h : (f <$> x) c = .ok b c') : ∃ a, x c = .ok a c' ∧ f a = b := by
  change EStateM.map f x c = .ok b c' at h
  simp only [EStateM.map] at h
  cases hx : x c with
  | ok a s =>
    rw [hx] at h
    obtain ⟨rfl, rfl⟩ : f a = b ∧ s = c' := by simpa using h
    exact ⟨a, rfl, rfl⟩
  | error e s => rw [hx] at h; cases h

theorem Json.toValue_eq_num {j : Json} {n : JsonNumber} (h : j.toValue = .num n) :
    j = .num n := by
  cases j <;> simp_all [Json.toValue]

/-- A read that stopped before blanks only, within text of number characters, read it all. -/
theorem rest_nil_of_blank_end {c₁ : Cursor} {l : List Char} (hs : c₁.rest <:+ l)
    (hl : ∀ ch ∈ l, NumberChar ch) (hend : c₁.skipBlank.peek = none) : c₁.rest = [] := by
  cases hr : c₁.rest with
  | nil => rfl
  | cons ch t =>
    have hch : NumberChar ch := hl ch (hs.subset (by simp [hr]))
    rw [Cursor.skipBlank_of_head c₁ (by rw [hr]; simpa using hch.not_blank),
      Cursor.peek_of_rest hr] at hend
    cases hend

/-- A number read to the end of a text of number characters reads the same before a
delimiter, and stops at it. -/
theorem number_before_delimiter {p : Bool} {n : JsonNumber} {c₀ c₁ c : Cursor}
    {more : List Char} (hread : number p c₀ = .ok n c₁) (hend : c₁.skipBlank.peek = none)
    (hbody : ∀ ch ∈ c₀.rest, NumberChar ch) (hc : c.rest = c₀.rest ++ more)
    (hmore : Delimited more) :
    ∃ c', number p c = .ok n c' ∧ c'.rest = more ∧ c'.depth = c.depth := by
  obtain ⟨hs, hf⟩ := frames_number p hread
  obtain ⟨c', h', hr', hd'⟩ := hf hmore hc
  refine ⟨c', h', ?_, hd'⟩
  rw [hr', rest_nil_of_blank_end hs hbody hend, List.nil_append]

end Reader

/-- A double reads back when its text, read as a whole JSON text, gives the double. -/
def Binary64.ReadsBack (x : Binary64) : Prop :=
  Reader.run Reader.value x.jsonText = .ok (.num (.float x))

namespace Reader

/-- **A double that reads back alone reads back inside a text.** At its text followed by
anything that may follow a value, the document reader reads the double and stops right
after its text. -/
theorem document_float {x : Binary64} (hx : x.ReadsBack) (d : Nat) {c : Cursor}
    {more : List Char} (hc : c.rest = x.jsonText.toList ++ more) (hmore : Delimited more) :
    ∃ c', document d c = .ok (.num (.float x)) c' ∧ c'.rest = more ∧ c'.depth = c.depth := by
  obtain ⟨c₁, hread, hend⟩ := run_ok_inv hx
  obtain ⟨j, hdoc, hj⟩ := map_run_inv hread
  rw [Json.toValue_eq_num hj] at hdoc
  -- the text alone: its sign, then a body that starts with a digit
  obtain ⟨body, htext, ⟨ch, hhead, hdigit⟩, hchars⟩ := Binary64.jsonText_toList x
  obtain ⟨t, rfl⟩ := List.head?_eq_some_iff.1 hhead
  have hnum : ∀ {p : Bool} {c₀ : Cursor}, c₀.rest = ch :: t →
      (number p >>= fun n => pure (Json.num n)) c₀ = .ok (.num (.float x)) c₁ →
      ∀ {c : Cursor}, c.rest = ch :: t ++ more →
        ∃ c', (number p >>= fun n => pure (Json.num n)) c = .ok (.num (.float x)) c' ∧
          c'.rest = more ∧ c'.depth = c.depth := by
    intro p c₀ h₀ hread₀ c hc₂
    obtain ⟨n, c₁', hnum₀, hpure⟩ := bind_run_inv hread₀
    obtain ⟨rfl, rfl⟩ : n = .float x ∧ c₁' = c₁ := by simpa using hpure
    obtain ⟨c', hnum', hrest', hdepth'⟩ :=
      number_before_delimiter hnum₀ hend (h₀ ▸ hchars) (by rw [hc₂, h₀]) hmore
    exact ⟨c', by rw [bind_run_ok hnum']; rfl, hrest', hdepth'⟩
  unfold documentHere at hdoc
  cases hneg : x.neg
  · -- no sign: the body is the whole text
    have hsign : (Binary64.signText x).toList = [] := by simp [Binary64.signText, hneg]
    have h₀ : (Cursor.start x.jsonText).rest = ch :: t := by
      rw [Cursor.start, htext, hsign, List.nil_append]
    have hc₂ : c.rest = ch :: t ++ more := by rw [hc, htext, hsign, List.nil_append]
    rw [document_digit _ h₀ hdigit] at hdoc
    rw [document_digit _ hc₂ hdigit]
    exact hnum h₀ hdoc hc₂
  · -- a minus sign, then the body
    have hsign : (Binary64.signText x).toList = ['-'] := by simp [Binary64.signText, hneg]
    have h₀ : (Cursor.start x.jsonText).rest = '-' :: ch :: t := by
      rw [Cursor.start, htext, hsign, List.singleton_append]
    have hc₂ : c.rest = '-' :: (ch :: t ++ more) := by
      rw [hc, htext, hsign, List.singleton_append, List.cons_append]
    rw [document_minus _ h₀, bump_bind] at hdoc
    rw [document_minus _ hc₂, bump_bind]
    obtain ⟨c', hread', hrest', hdepth'⟩ := hnum (Cursor.bump_rest h₀) hdoc (Cursor.bump_rest hc₂)
    exact ⟨c', hread', hrest', by simp [hdepth']⟩

end Reader

/-! ## Values that read back -/

/-- A number as the reader makes it: a natural within 64 bits, a negative integer within 64
bits, or a double that reads back. -/
def JsonNumber.ReadsBack : JsonNumber → Prop
  | .nat n => n ≤ Reader.natLimit
  | .negInt i => -2 ^ 63 ≤ i ∧ i < 0
  | .float x => x.ReadsBack

namespace Json

mutual

/-- A value as `Reader.value` makes it: its numbers read back and the keys of each of its
objects ascend strictly. -/
def ReadsBack : Json → Prop
  | .num n => n.ReadsBack
  | .arr items => ItemsReadBack items
  | .obj members => (members.map (·.1)).Pairwise (· < ·) ∧ MembersReadBack members
  | _ => True

/-- Every item reads back. -/
def ItemsReadBack : List Json → Prop
  | [] => True
  | j :: rest => j.ReadsBack ∧ ItemsReadBack rest

/-- Every member's value reads back. -/
def MembersReadBack : List (String × Json) → Prop
  | [] => True
  | (_, v) :: rest => v.ReadsBack ∧ MembersReadBack rest

end

mutual

/-- How deep arrays and objects nest in a value; a scalar nests zero deep. -/
def nesting : Json → Nat
  | .arr items => itemsNesting items + 1
  | .obj members => membersNesting members + 1
  | _ => 0

/-- The deepest nesting of the items. -/
def itemsNesting : List Json → Nat
  | [] => 0
  | j :: rest => max j.nesting (itemsNesting rest)

/-- The deepest nesting of the members' values. -/
def membersNesting : List (String × Json) → Nat
  | [] => 0
  | (_, v) :: rest => max v.nesting (membersNesting rest)

end

/-- The items after the first, each after its comma. -/
def itemsTail (items : List Json) : List Char :=
  items.flatMap fun j => ',' :: j.compact.toList

/-- The written form of a member: its quoted key, a colon and its value. -/
def memberText (m : String × Json) : List Char :=
  (quote m.1).toList ++ ':' :: m.2.compact.toList

/-- The members after the first, each after its comma. -/
def membersTail (members : List (String × Json)) : List Char :=
  members.flatMap fun m => ',' :: memberText m

theorem compactItems_cons (j : Json) (rest : List Json) :
    (compactItems (j :: rest)).toList = j.compact.toList ++ itemsTail rest := by
  cases rest with
  | nil => simp [compactItems, itemsTail]
  | cons j' rest' =>
    simp only [compactItems, String.toList_append]
    rw [compactItems_cons j' rest']
    simp [itemsTail]

theorem compactMembers_cons (m : String × Json) (rest : List (String × Json)) :
    (compactMembers (m :: rest)).toList = memberText m ++ membersTail rest := by
  obtain ⟨k, v⟩ := m
  cases rest with
  | nil => simp [compactMembers, membersTail, memberText]
  | cons m' rest' =>
    simp only [compactMembers, String.toList_append]
    rw [compactMembers_cons m' rest']
    simp [memberText, membersTail]

end Json

namespace Reader

/-! ## Brackets, commas and colons -/

/-- A character a written value may start with: no blank, and no comma or closing bracket. -/
def ValueStart (ch : Char) : Prop :=
  ch ≠ ']' ∧ ch ≠ ',' ∧ ch ≠ ' ' ∧ ch ≠ '\t' ∧ ch ≠ '\r' ∧ ch ≠ '\n'

instance : DecidablePred ValueStart := fun ch => by unfold ValueStart; infer_instance

theorem ValueStart.not_blank {ch : Char} (h : ValueStart ch) :
    ch ≠ ' ' ∧ ch ≠ '\t' ∧ ch ≠ '\r' ∧ ch ≠ '\n' :=
  h.2.2

theorem nextItem_close (first : Bool) {c : Cursor} {t : List Char} (hc : c.rest = ']' :: t) :
    nextItem first c = .ok false c := by
  rw [nextItem, skipBlank_bind_of_head _ hc (by decide)]
  rfl

theorem nextItem_first {c : Cursor} {ch : Char} {t : List Char} (hc : c.rest = ch :: t)
    (hv : ValueStart ch) : nextItem true c = .ok true c := by
  rw [nextItem, skipBlank_bind_of_head _ hc hv.not_blank]
  erw [nextItem.match_3.eq_4 _ _ _ _ _ _ hv.1 hv.2.1]
  rfl

theorem nextItem_comma {c : Cursor} {ch : Char} {t : List Char} (hc : c.rest = ',' :: ch :: t)
    (hv : ValueStart ch) : nextItem false c = .ok true c.bump := by
  rw [nextItem, skipBlank_bind_of_head _ hc (by decide)]
  show (if false = true then _ else _ : Reader Bool) c = _
  rw [if_neg (by decide), bump_bind, skipBlank_bind_of_head _ (Cursor.bump_rest hc) hv.not_blank]
  erw [nextItem.match_1.eq_2 _ _ _ _ _ hv.1]
  rfl

theorem nextMember_close (first : Bool) {c : Cursor} {t : List Char} (hc : c.rest = '}' :: t) :
    nextMember first c = .ok false c := by
  rw [nextMember, skipBlank_bind_of_head _ hc (by decide)]
  rfl

theorem nextMember_first {c : Cursor} {t : List Char} (hc : c.rest = '"' :: t) :
    nextMember true c = .ok true c := by
  rw [nextMember, skipBlank_bind_of_head _ hc (by decide)]
  rfl

theorem nextMember_comma {c : Cursor} {t : List Char} (hc : c.rest = ',' :: '"' :: t) :
    nextMember false c = .ok true c.bump := by
  rw [nextMember, skipBlank_bind_of_head _ hc (by decide)]
  show (if false = true then _ else _ : Reader Bool) c = _
  rw [if_neg (by decide), bump_bind, skipBlank_bind_of_head _ (Cursor.bump_rest hc) (by decide)]
  rfl

theorem closeArray_ok {c : Cursor} {t : List Char} (hc : c.rest = ']' :: t) :
    closeArray c = .ok () c.bump := by
  rw [closeArray, skipBlank_bind_of_head _ hc (by decide)]
  rfl

theorem closeObject_ok {c : Cursor} {t : List Char} (hc : c.rest = '}' :: t) :
    closeObject c = .ok () c.bump := by
  rw [closeObject, skipBlank_bind_of_head _ hc (by decide)]
  rfl

theorem colon_ok {c : Cursor} {t : List Char} (hc : c.rest = ':' :: t) :
    colon c = .ok () c.bump := by
  rw [colon, skipBlank_bind_of_head _ hc (by decide)]
  rfl

/-- A member's key reads back, stopping at its colon. -/
theorem key_quote {k : String} {v : Json} {c : Cursor} {more : List Char}
    (hc : c.rest = Json.memberText (k, v) ++ more) :
    ∃ c₁, key c = .ok k c₁ ∧ c₁.rest = ':' :: (v.compact.toList ++ more) ∧
      c₁.depth = c.depth := by
  have hquote : c.rest = '"' :: (k.toList.flatMap Json.escapeChar ++ '"' :: ':' :: (v.compact.toList ++ more)) := by
    simp [hc, Json.memberText, quote_toList]
  obtain ⟨c₁, hstr, hrest₁, hdepth₁⟩ := string_quote k c.bump _ (Cursor.bump_rest hquote)
  exact ⟨c₁, by rw [key, bump_bind]; exact hstr, hrest₁, by simp [hdepth₁]⟩

/-- A member's key and colon read back, leaving its value. -/
theorem key_colon {k : String} {v : Json} {c : Cursor} {more : List Char}
    (hc : c.rest = Json.memberText (k, v) ++ more) :
    ∃ c₁ c₂, key c = .ok k c₁ ∧ colon c₁ = .ok () c₂ ∧ c₂.rest = v.compact.toList ++ more ∧
      c₂.depth = c.depth := by
  obtain ⟨c₁, hkey, hrest₁, hdepth₁⟩ := key_quote hc
  exact ⟨c₁, c₁.bump, hkey, colon_ok hrest₁, Cursor.bump_rest hrest₁, by simp [hdepth₁]⟩

/-! ## Scalars -/

theorem NumberChar.valueStart {ch : Char} (h : NumberChar ch) : ValueStart ch := by
  have hb := h.not_blank
  refine ⟨?_, ?_, hb⟩
  all_goals
    rintro rfl
    rcases h with h | h | h | h | h
    · exact absurd h (by decide)
    all_goals exact absurd h (by decide)

/-- A written value starts with a character a value may start with. -/
theorem compact_head (j : Json) : ∃ ch t, j.compact.toList = ch :: t ∧ ValueStart ch := by
  match j with
  | .null => exact ⟨'n', ['u', 'l', 'l'], by simp [Json.compact], by decide⟩
  | .bool true => exact ⟨'t', ['r', 'u', 'e'], by simp [Json.compact], by decide⟩
  | .bool false => exact ⟨'f', ['a', 'l', 's', 'e'], by simp [Json.compact], by decide⟩
  | .num (.nat n) =>
    obtain ⟨ch, t, h⟩ := repr_cons n
    exact ⟨ch, t, h, NumberChar.valueStart (numberChars_repr n ch (by simp [h]))⟩
  | .num (.negInt i) =>
    exact ⟨'-', (Nat.repr i.natAbs).toList, by simp [Json.compact, JsonNumber.text], by decide⟩
  | .num (.float x) =>
    obtain ⟨body, htext, ⟨ch, hhead, hdigit⟩, -⟩ := Binary64.jsonText_toList x
    obtain ⟨t, rfl⟩ := List.head?_eq_some_iff.1 hhead
    unfold Binary64.signText at htext
    split at htext
    · exact ⟨'-', ch :: t, by simpa [Json.compact, JsonNumber.text] using htext, by decide⟩
    · exact ⟨ch, t, by simpa [Json.compact, JsonNumber.text] using htext,
        NumberChar.valueStart (.inl hdigit)⟩
  | .str s =>
    exact ⟨'"', s.toList.flatMap Json.escapeChar ++ ['"'], by simp [Json.compact, quote_toList],
      by decide⟩
  | .arr items =>
    exact ⟨'[', (Json.compactItems items).toList ++ [']'], by simp [Json.compact], by decide⟩
  | .obj members =>
    exact ⟨'{', (Json.compactMembers members).toList ++ ['}'], by simp [Json.compact], by decide⟩

theorem literalRest_ok : ∀ (l : List Char) {c : Cursor} {more : List Char},
    c.rest = l ++ more → ∃ c', literalRest l c = .ok () c' ∧ c'.rest = more ∧ c'.depth = c.depth
  | [], c, _, hc => ⟨c, rfl, hc, rfl⟩
  | ch :: l, c, more, hc => by
    obtain ⟨c', hlit, hrest, hdepth⟩ := literalRest_ok l (Cursor.bump_rest hc)
    refine ⟨c', ?_, hrest, by simp [hdepth]⟩
    rw [literalRest, peek_bind, Cursor.peek_of_rest hc]
    show (if ch = ch then _ else _ : Reader Unit) c = _
    rw [if_pos rfl, bump_bind]
    exact hlit

/-- **A literal reads back.** -/
theorem document_literal {j : Json} (hj : j = .null ∨ j = .bool true ∨ j = .bool false)
    (d : Nat) {c : Cursor} {more : List Char} (hc : c.rest = j.compact.toList ++ more) :
    ∃ c', document d c = .ok j c' ∧ c'.rest = more ∧ c'.depth = c.depth := by
  -- its first letter picks the literal, whose other letters are then read
  obtain ⟨ch, l, htext, hdoc⟩ : ∃ ch l, j.compact.toList = ch :: l ∧ ∀ t, c.rest = ch :: t →
      document d c = (bump >>= fun _ => literalRest l >>= fun _ => pure j) c := by
    rcases hj with rfl | rfl | rfl
    · refine ⟨'n', ['u', 'l', 'l'], by simp [Json.compact], fun t ht => ?_⟩
      rw [document.eq_def, skipBlank_bind_of_head _ ht (by decide)]
      rfl
    · refine ⟨'t', ['r', 'u', 'e'], by simp [Json.compact], fun t ht => ?_⟩
      rw [document.eq_def, skipBlank_bind_of_head _ ht (by decide)]
      rfl
    · refine ⟨'f', ['a', 'l', 's', 'e'], by simp [Json.compact], fun t ht => ?_⟩
      rw [document.eq_def, skipBlank_bind_of_head _ ht (by decide)]
      rfl
  have hc' : c.rest = ch :: (l ++ more) := by rw [hc, htext, List.cons_append]
  obtain ⟨c', hlit, hrest, hdepth⟩ := literalRest_ok l (Cursor.bump_rest hc')
  refine ⟨c', ?_, hrest, by simp [hdepth]⟩
  rw [hdoc _ hc', bump_bind, bind_run_ok hlit]
  rfl

/-- **A string reads back.** -/
theorem document_str (s : String) (d : Nat) {c : Cursor} {more : List Char}
    (hc : c.rest = (Json.str s).compact.toList ++ more) :
    ∃ c', document d c = .ok (.str s) c' ∧ c'.rest = more ∧ c'.depth = c.depth := by
  have hc' : c.rest = '"' :: (s.toList.flatMap Json.escapeChar ++ '"' :: more) := by
    simp [hc, Json.compact, quote_toList]
  obtain ⟨c', hstr, hrest, hdepth⟩ := string_quote s c.bump more (Cursor.bump_rest hc')
  refine ⟨c', ?_, hrest, by simp [hdepth]⟩
  rw [document.eq_def, skipBlank_bind_of_head _ hc' (by decide)]
  show (bump >>= fun _ => string >>= fun s => pure (Json.str s) : Reader Json) c = _
  rw [bump_bind, bind_run_ok hstr]
  rfl

/-- **An integer reads back.** -/
theorem document_int {n : JsonNumber} (hn : n.ReadsBack) (hint : ∀ x, n ≠ .float x) (d : Nat)
    {c : Cursor} {more : List Char} (hc : c.rest = (Json.num n).compact.toList ++ more)
    (hmore : Delimited more) :
    ∃ c', document d c = .ok (.num n) c' ∧ c'.rest = more ∧ c'.depth = c.depth := by
  match n, hn, hint with
  | .nat k, hk, _ =>
    obtain ⟨ch, t, hct⟩ := repr_cons k
    have hc' : c.rest = (Nat.repr k).toList ++ more := by simpa [Json.compact, JsonNumber.text] using hc
    obtain ⟨c', hnum, hrest, hdepth⟩ := number_nat hk hc' hmore
    refine ⟨c', ?_, hrest, hdepth⟩
    rw [document_digit d (by rw [hc', hct, List.cons_append])
      (@digits_of_mem_repr k ch (by simp [hct])), bind_run_ok hnum]
    rfl
  | .negInt i, ⟨hlo, hneg⟩, _ =>
    have hc' : c.rest = '-' :: ((Nat.repr i.natAbs).toList ++ more) := by
      simpa [Json.compact, JsonNumber.text] using hc
    obtain ⟨c', hnum, hrest, hdepth⟩ := number_negInt hlo hneg (Cursor.bump_rest hc') hmore
    refine ⟨c', ?_, hrest, by simp [hdepth]⟩
    rw [document_minus d hc', bump_bind, bind_run_ok hnum]
    rfl
  | .float x, _, hint => exact absurd rfl (hint x)

/-! ## Arrays and objects -/

@[simp] theorem budget_run (c : Cursor) : budget c = .ok (c.rest.length + 1) c := rfl

theorem Json.length_le_itemsTail (items : List Json) : items.length ≤ (Json.itemsTail items).length := by
  induction items with
  | nil => simp
  | cons j rest ih => simp [Json.itemsTail] at ih ⊢; omega

theorem Json.length_le_membersTail (members : List (String × Json)) :
    members.length ≤ (Json.membersTail members).length := by
  induction members with
  | nil => simp
  | cons m rest ih => simp [Json.membersTail] at ih ⊢; omega

theorem Json.length_le_compactItems (items : List Json) :
    items.length ≤ (Json.compactItems items).toList.length := by
  cases items with
  | nil => simp
  | cons j rest =>
    obtain ⟨ch, t, hct, -⟩ := compact_head j
    have := Json.length_le_itemsTail rest
    simp [Json.compactItems_cons, hct]
    omega

theorem Json.length_le_compactMembers (members : List (String × Json)) :
    members.length ≤ (Json.compactMembers members).toList.length := by
  cases members with
  | nil => simp
  | cons m rest =>
    have := Json.length_le_membersTail rest
    simp [Json.compactMembers_cons, Json.memberText, quote_toList]
    omega

theorem Json.delimited_itemsTail (items : List Json) (more : List Char) :
    Delimited (Json.itemsTail items ++ ']' :: more) := by
  cases items <;> simp [Json.itemsTail, Delimited]

theorem Json.delimited_membersTail (members : List (String × Json)) (more : List Char) :
    Delimited (Json.membersTail members ++ '}' :: more) := by
  cases members <;> simp [Json.membersTail, Delimited]

theorem Json.memberText_quote (m : String × Json) : ∃ t, Json.memberText m = '"' :: t :=
  ⟨m.1.toList.flatMap Json.escapeChar ++ '"' :: ':' :: m.2.compact.toList,
    by simp [Json.memberText, quote_toList]⟩

/-- An array reads back once its items do. -/
theorem document_arr {items : List Json} (e : Nat) {c : Cursor} {more : List Char}
    (hc : c.rest = (Json.arr items).compact.toList ++ more)
    (hitems : ∀ (c₁ : Cursor) (fuel : Nat),
      c₁.rest = (Json.compactItems items).toList ++ ']' :: more → items.length < fuel →
      ∃ c', documentItems (e + 1) fuel true [] c₁ = .ok items c' ∧ c'.rest = ']' :: more ∧
        c'.depth = c₁.depth) :
    ∃ c', document (e + 2) c = .ok (.arr items) c' ∧ c'.rest = more ∧ c'.depth = c.depth := by
  have hc' : c.rest = '[' :: ((Json.compactItems items).toList ++ ']' :: more) := by
    simp [hc, Json.compact]
  have hfuel : items.length < c.bump.rest.length + 1 := by
    have := Json.length_le_compactItems items
    simp only [Cursor.bump_rest hc', List.length_append, List.length_cons]
    omega
  obtain ⟨c₁, hread, hrest₁, hdepth₁⟩ := hitems _ _ (Cursor.bump_rest hc') hfuel
  refine ⟨c₁.bump, ?_, Cursor.bump_rest hrest₁, by simp [hdepth₁]⟩
  rw [document.eq_def, skipBlank_bind_of_head _ hc' (by decide)]
  show (bump >>= fun _ => budget >>= fun n =>
    thenClose (documentItems (e + 1) n true []) closeArray >>= fun items =>
      pure (Json.arr items) : Reader Json) c = _
  rw [bump_bind, bind_run_ok (budget_run _), bind_run_ok (thenClose_ok hread (closeArray_ok hrest₁))]
  rfl

/-- An object reads back once its members do. -/
theorem document_obj {members : List (String × Json)} (e : Nat) {c : Cursor} {more : List Char}
    (hc : c.rest = (Json.obj members).compact.toList ++ more)
    (hmembers : ∀ (c₁ : Cursor) (fuel : Nat),
      c₁.rest = (Json.compactMembers members).toList ++ '}' :: more → members.length < fuel →
      ∃ c', documentMembers (e + 1) fuel true [] c₁ = .ok members c' ∧ c'.rest = '}' :: more ∧
        c'.depth = c₁.depth) :
    ∃ c', document (e + 2) c = .ok (.obj members) c' ∧ c'.rest = more ∧ c'.depth = c.depth := by
  have hc' : c.rest = '{' :: ((Json.compactMembers members).toList ++ '}' :: more) := by
    simp [hc, Json.compact]
  have hfuel : members.length < c.bump.rest.length + 1 := by
    have := Json.length_le_compactMembers members
    simp only [Cursor.bump_rest hc', List.length_append, List.length_cons]
    omega
  obtain ⟨c₁, hread, hrest₁, hdepth₁⟩ := hmembers _ _ (Cursor.bump_rest hc') hfuel
  refine ⟨c₁.bump, ?_, Cursor.bump_rest hrest₁, by simp [hdepth₁]⟩
  rw [document.eq_def, skipBlank_bind_of_head _ hc' (by decide)]
  show (bump >>= fun _ => budget >>= fun n =>
    thenClose (documentMembers (e + 1) n true []) closeObject >>= fun members =>
      pure (Json.obj members) : Reader Json) c = _
  rw [bump_bind, bind_run_ok (budget_run _),
    bind_run_ok (thenClose_ok hread (closeObject_ok hrest₁))]
  rfl

/-! ## Documents -/

mutual

/-- **Compact text reads back as the document it was written from**, as long as its numbers
read back and its nesting is within the allowance `d`: the reader returns it, stops right after
its text, and keeps its allowance. -/
theorem document_compact : ∀ (j : Json) (d : Nat) (c : Cursor) (more : List Char),
    j.ReadsBack → j.nesting < d → c.rest = j.compact.toList ++ more → Delimited more →
    ∃ c', document d c = .ok j c' ∧ c'.rest = more ∧ c'.depth = c.depth
  | .null, d, _, _, _, _, hc, _ => document_literal (.inl rfl) d hc
  | .bool true, d, _, _, _, _, hc, _ => document_literal (.inr (.inl rfl)) d hc
  | .bool false, d, _, _, _, _, hc, _ => document_literal (.inr (.inr rfl)) d hc
  | .num (.nat n), d, _, _, hj, _, hc, hmore => document_int (n := .nat n) hj (by simp) d hc hmore
  | .num (.negInt i), d, _, _, hj, _, hc, hmore =>
    document_int (n := .negInt i) hj (by simp) d hc hmore
  | .num (.float x), d, _, _, hj, _, hc, hmore => document_float hj d hc hmore
  | .str s, d, _, _, _, _, hc, _ => document_str s d hc
  | .arr items, d, c, more, hj, hd, hc, _ => by
    simp only [Json.nesting] at hd
    obtain ⟨e, rfl⟩ : ∃ e, d = e + 2 := ⟨d - 2, by omega⟩
    exact document_arr e hc fun c₁ fuel hc₁ hfuel =>
      documentItems_compact items (e + 1) fuel c₁ more hj (by omega) hfuel hc₁
  | .obj members, d, c, more, hj, hd, hc, _ => by
    simp only [Json.nesting] at hd
    obtain ⟨e, rfl⟩ : ∃ e, d = e + 2 := ⟨d - 2, by omega⟩
    exact document_obj e hc fun c₁ fuel hc₁ hfuel =>
      documentMembers_compact members (e + 1) fuel c₁ more hj.2 (by omega) hfuel hc₁

/-- The items of an array read back, from the first. -/
theorem documentItems_compact : ∀ (items : List Json) (d fuel : Nat) (c : Cursor)
    (more : List Char), Json.ItemsReadBack items → Json.itemsNesting items < d →
    items.length < fuel → c.rest = (Json.compactItems items).toList ++ ']' :: more →
    ∃ c', documentItems d fuel true [] c = .ok items c' ∧ c'.rest = ']' :: more ∧
      c'.depth = c.depth
  | _, _, 0, _, _, _, _, hfuel, _ => absurd hfuel (Nat.not_lt_zero _)
  | [], d, fuel + 1, c, more, _, _, _, hc => by
    have hc' : c.rest = ']' :: more := by simpa [Json.compactItems] using hc
    refine ⟨c, ?_, hc', rfl⟩
    rw [documentItems, bind_run_ok (nextItem_close true hc')]
    rfl
  | j :: rest, d, fuel + 1, c, more, ⟨hj, hrest⟩, hd, hfuel, hc => by
    simp only [Json.itemsNesting] at hd
    obtain ⟨ch, t, hct, hv⟩ := compact_head j
    have hc' : c.rest = j.compact.toList ++ (Json.itemsTail rest ++ ']' :: more) := by
      rw [hc, Json.compactItems_cons, List.append_assoc]
    obtain ⟨c₁, hdoc, hrest₁, hdepth₁⟩ :=
      document_compact j d c _ hj (by omega) hc' (Json.delimited_itemsTail rest more)
    obtain ⟨c₂, hitems, hrest₂, hdepth₂⟩ :=
      documentItems_tail rest d fuel [j] c₁ more hrest (by omega)
        (by simp only [List.length_cons] at hfuel; omega) hrest₁
    refine ⟨c₂, ?_, hrest₂, hdepth₂.trans hdepth₁⟩
    rw [documentItems, bind_run_ok (nextItem_first (by rw [hc', hct, List.cons_append]) hv),
      if_pos rfl, bind_run_ok hdoc, hitems]
    rfl

/-- The items of an array after the first read back, each after its comma. -/
theorem documentItems_tail : ∀ (items : List Json) (d fuel : Nat) (acc : List Json) (c : Cursor)
    (more : List Char), Json.ItemsReadBack items → Json.itemsNesting items < d →
    items.length < fuel → c.rest = Json.itemsTail items ++ ']' :: more →
    ∃ c', documentItems d fuel false acc c = .ok (acc.reverse ++ items) c' ∧
      c'.rest = ']' :: more ∧ c'.depth = c.depth
  | _, _, 0, _, _, _, _, _, hfuel, _ => absurd hfuel (Nat.not_lt_zero _)
  | [], d, fuel + 1, acc, c, more, _, _, _, hc => by
    have hc' : c.rest = ']' :: more := by simpa [Json.itemsTail] using hc
    refine ⟨c, ?_, hc', rfl⟩
    rw [documentItems, bind_run_ok (nextItem_close false hc'), List.append_nil]
    rfl
  | j :: rest, d, fuel + 1, acc, c, more, ⟨hj, hrest⟩, hd, hfuel, hc => by
    simp only [Json.itemsNesting] at hd
    obtain ⟨ch, t, hct, hv⟩ := compact_head j
    have hc' : c.rest = ',' :: (j.compact.toList ++ (Json.itemsTail rest ++ ']' :: more)) := by
      simp [hc, Json.itemsTail]
    have hbump : c.bump.rest = j.compact.toList ++ (Json.itemsTail rest ++ ']' :: more) :=
      Cursor.bump_rest hc'
    obtain ⟨c₁, hdoc, hrest₁, hdepth₁⟩ :=
      document_compact j d c.bump _ hj (by omega) hbump (Json.delimited_itemsTail rest more)
    obtain ⟨c₂, hitems, hrest₂, hdepth₂⟩ :=
      documentItems_tail rest d fuel (j :: acc) c₁ more hrest (by omega)
        (by simp only [List.length_cons] at hfuel; omega) hrest₁
    refine ⟨c₂, ?_, hrest₂, by simp [hdepth₂, hdepth₁]⟩
    rw [documentItems, bind_run_ok (nextItem_comma (by rw [hc', hct, List.cons_append]) hv),
      if_pos rfl, bind_run_ok hdoc, hitems]
    simp

/-- The members of an object read back, from the first. -/
theorem documentMembers_compact : ∀ (members : List (String × Json)) (d fuel : Nat) (c : Cursor)
    (more : List Char), Json.MembersReadBack members → Json.membersNesting members < d →
    members.length < fuel → c.rest = (Json.compactMembers members).toList ++ '}' :: more →
    ∃ c', documentMembers d fuel true [] c = .ok members c' ∧ c'.rest = '}' :: more ∧
      c'.depth = c.depth
  | _, _, 0, _, _, _, _, hfuel, _ => absurd hfuel (Nat.not_lt_zero _)
  | [], d, fuel + 1, c, more, _, _, _, hc => by
    have hc' : c.rest = '}' :: more := by simpa [Json.compactMembers] using hc
    refine ⟨c, ?_, hc', rfl⟩
    rw [documentMembers, bind_run_ok (nextMember_close true hc')]
    rfl
  | (k, v) :: rest, d, fuel + 1, c, more, ⟨hv, hrest⟩, hd, hfuel, hc => by
    simp only [Json.membersNesting] at hd
    have hc' : c.rest = Json.memberText (k, v) ++ (Json.membersTail rest ++ '}' :: more) := by
      rw [hc, Json.compactMembers_cons, List.append_assoc]
    obtain ⟨c₁, c₂, hkey, hcolon, hrest₂, hdepth₂⟩ := key_colon hc'
    obtain ⟨c₃, hdoc, hrest₃, hdepth₃⟩ :=
      document_compact v d c₂ _ hv (by omega) hrest₂ (Json.delimited_membersTail rest more)
    obtain ⟨c₄, hmembers, hrest₄, hdepth₄⟩ :=
      documentMembers_tail rest d fuel [(k, v)] c₃ more hrest (by omega)
        (by simp only [List.length_cons] at hfuel; omega) hrest₃
    refine ⟨c₄, ?_, hrest₄, by rw [hdepth₄, hdepth₃, hdepth₂]⟩
    obtain ⟨t, ht⟩ := Json.memberText_quote (k, v)
    rw [documentMembers, bind_run_ok (nextMember_first (by rw [hc', ht, List.cons_append])),
      if_pos rfl, bind_run_ok hkey, bind_run_ok hcolon, bind_run_ok hdoc, hmembers]
    rfl

/-- The members of an object after the first read back, each after its comma. -/
theorem documentMembers_tail : ∀ (members : List (String × Json)) (d fuel : Nat)
    (acc : List (String × Json)) (c : Cursor) (more : List Char),
    Json.MembersReadBack members → Json.membersNesting members < d →
    members.length < fuel → c.rest = Json.membersTail members ++ '}' :: more →
    ∃ c', documentMembers d fuel false acc c = .ok (acc.reverse ++ members) c' ∧
      c'.rest = '}' :: more ∧ c'.depth = c.depth
  | _, _, 0, _, _, _, _, _, hfuel, _ => absurd hfuel (Nat.not_lt_zero _)
  | [], d, fuel + 1, acc, c, more, _, _, _, hc => by
    have hc' : c.rest = '}' :: more := by simpa [Json.membersTail] using hc
    refine ⟨c, ?_, hc', rfl⟩
    rw [documentMembers, bind_run_ok (nextMember_close false hc'), List.append_nil]
    rfl
  | (k, v) :: rest, d, fuel + 1, acc, c, more, ⟨hv, hrest⟩, hd, hfuel, hc => by
    simp only [Json.membersNesting] at hd
    have hc' : c.rest = ',' :: (Json.memberText (k, v) ++ (Json.membersTail rest ++ '}' :: more)) := by
      simp [hc, Json.membersTail]
    have hbump := Cursor.bump_rest hc'
    obtain ⟨c₁, c₂, hkey, hcolon, hrest₂, hdepth₂⟩ := key_colon hbump
    obtain ⟨c₃, hdoc, hrest₃, hdepth₃⟩ :=
      document_compact v d c₂ _ hv (by omega) hrest₂ (Json.delimited_membersTail rest more)
    obtain ⟨c₄, hmembers, hrest₄, hdepth₄⟩ :=
      documentMembers_tail rest d fuel ((k, v) :: acc) c₃ more hrest (by omega)
        (by simp only [List.length_cons] at hfuel; omega) hrest₃
    refine ⟨c₄, ?_, hrest₄, by simp [hdepth₄, hdepth₃, hdepth₂]⟩
    obtain ⟨t, ht⟩ := Json.memberText_quote (k, v)
    rw [documentMembers, bind_run_ok (nextMember_comma (by rw [hc', ht, List.cons_append])),
      if_pos rfl, bind_run_ok hkey, bind_run_ok hcolon, bind_run_ok hdoc, hmembers]
    simp

end

/-! ## Values -/

/-- A member goes last among members whose keys are all smaller. -/
theorem Json.insertMember_of_lt {k : String} (v : Json) :
    ∀ acc : List (String × Json), (∀ m ∈ acc, m.1 < k) → Json.insertMember k v acc = acc ++ [(k, v)]
  | [], _ => rfl
  | (k', v') :: rest, h => by
    have hlt : k' < k := h _ List.mem_cons_self
    rw [Json.insertMember, if_neg (lt_asymm hlt), if_neg (ne_of_gt hlt),
      Json.insertMember_of_lt v rest fun m hm => h m (List.mem_cons_of_mem _ hm)]
    rfl

mutual

/-- **A value that reads back is its own value**: its objects are already sorted. -/
theorem Json.toValue_of_readsBack : ∀ j : Json, j.ReadsBack → j.toValue = j
  | .null, _ => rfl
  | .bool _, _ => rfl
  | .num _, _ => rfl
  | .str _, _ => rfl
  | .arr items, h => by rw [Json.toValue, Json.toValues_of_readsBack items h]
  | .obj members, ⟨hsorted, h⟩ => by
    rw [Json.toValue, Json.sortMembers_of_ascending members [] h (by simpa using hsorted),
      List.nil_append]

theorem Json.toValues_of_readsBack : ∀ items : List Json, Json.ItemsReadBack items →
    Json.toValues items = items
  | [], _ => rfl
  | j :: rest, ⟨hj, hrest⟩ => by
    rw [Json.toValues, Json.toValue_of_readsBack j hj, Json.toValues_of_readsBack rest hrest]

/-- Members with ascending keys, inserted after smaller keys, go last one by one. -/
theorem Json.sortMembers_of_ascending : ∀ (members acc : List (String × Json)),
    Json.MembersReadBack members → (acc.map (·.1) ++ members.map (·.1)).Pairwise (· < ·) →
    Json.sortMembers members acc = acc ++ members
  | [], acc, _, _ => by rw [Json.sortMembers, List.append_nil]
  | (k, v) :: rest, acc, ⟨hv, hrest⟩, hsorted => by
    have hlt : ∀ m ∈ acc, m.1 < k := fun m hm =>
      (List.pairwise_append.1 hsorted).2.2 m.1 (List.mem_map_of_mem hm) k (by simp)
    rw [Json.sortMembers, Json.toValue_of_readsBack v hv, Json.insertMember_of_lt v acc hlt,
      Json.sortMembers_of_ascending rest _ hrest (by simpa using hsorted)]
    simp

end

/-- **Compact text reads back as the value it was written from**, as long as the value reads
back and nests within the cursor's allowance. -/
theorem value_compact {j : Json} (hj : j.ReadsBack) {c : Cursor} {more : List Char}
    (hd : j.nesting < c.depth) (hc : c.rest = j.compact.toList ++ more) (hmore : Delimited more) :
    ∃ c', value c = .ok j c' ∧ c'.rest = more ∧ c'.depth = c.depth := by
  obtain ⟨c', hdoc, hrest, hdepth⟩ := document_compact j c.depth c more hj hd hc hmore
  refine ⟨c', ?_, hrest, hdepth⟩
  rw [value, map_run_ok (x := documentHere) hdoc, Json.toValue_of_readsBack j hj]

end Reader

end MarketChat
