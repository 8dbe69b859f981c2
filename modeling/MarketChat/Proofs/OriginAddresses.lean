import MarketChat.Proofs.FormPairs
import MarketChat.Proofs.GroupViews
/-!
# Addresses follow the origin

The client builds two kinds of address from its configured origin. A REST address is text: the
origin without its trailing slashes, the API prefix and the endpoint's path, read as a URL, with
the endpoint's pairs form-encoded onto its query. The socket address is built the other way
round: the origin is read first, then its scheme is switched to `ws` or `wss`, its path replaced
and its query reset before the user's id is appended.

For an origin `http(s)://host[:port][/]` (an `Origin`) and the default prefix, both constructions
land on the same site. Reading the origin's authority followed by any plain path comes to one
thing, `Origin.site` (the host read, then the port), whatever the path
(`Origin.readAuthority_authority`); so an origin that fails to read makes every address fail
with its error, and one that reads gives every address its scheme's host and port. The socket's
port survives the switch of scheme because a port that is read is never its scheme's default,
and `ws`/`wss` share the defaults of `http`/`https` (`Origin.setScheme_siteUrl`).

The side conditions say what an origin of this shape is: its host holds no character that would
end the authority, mark credentials or a port, and is not empty; its port is digits. Paths are
plain (`Url.plainPath`): letters, digits, `-` and `/`, which is what every endpoint's path is
for every id, negative ones included (`Api.Endpoint.plainPath_prefix_path`). Query values are
arbitrary: they come back from the query by `Url.queryPairs`, the form decoding of
`Proofs.FormPairs`.

Main statement: `Origin.addresses_follow_origin`.
-/

namespace MarketChat

/-! ## Plain paths -/

namespace Url

/-- A character that a path segment keeps as it is and that ends nothing: a letter, a digit or a
minus sign. -/
def segmentChar (c : Char) : Bool := c.isAlphanum || c = '-'

/-- A character of a plain path: a segment character or `/`. -/
def pathChar (c : Char) : Bool := segmentChar c || c = '/'

/-- A plain path: empty, or `/` followed by path characters. Every path the client builds is one,
whatever its ids. -/
def plainPath : List Char → Bool
  | [] => true
  | c :: p => c = '/' && p.all pathChar

theorem ne_of_segmentChar {c d : Char} (h : segmentChar c = true) (hd : segmentChar d = false) :
    c ≠ d := fun e => by rw [e, hd] at h; cases h

theorem toNat_of_segmentChar {c : Char} (h : segmentChar c = true) :
    0x20 < c.toNat ∧ c.toNat < 0x7F := by
  simp only [segmentChar, Char.isAlphanum, Char.isAlpha, Char.isUpper, Char.isLower, Char.isDigit,
    Bool.or_eq_true, Bool.and_eq_true, decide_eq_true_eq] at h
  rcases h with ((h | h) | h) | h
  · have h1 : 65 ≤ c.toNat := h.1
    have h2 : c.toNat ≤ 90 := h.2
    exact ⟨by omega, by omega⟩
  · have h1 : 97 ≤ c.toNat := h.1
    have h2 : c.toNat ≤ 122 := h.2
    exact ⟨by omega, by omega⟩
  · have h1 : 48 ≤ c.toNat := h.1
    have h2 : c.toNat ≤ 57 := h.2
    exact ⟨by omega, by omega⟩
  · subst h
    decide

theorem toLower_eq_of_lt {c d : Char} (hd : d.toNat < 0x41) (h : c.toLower = d) : c = d := by
  unfold Char.toLower at h
  split at h
  · rename_i hup
    have h1 : 65 ≤ c.val.toNat := hup.1
    have h2 : c.val.toNat ≤ 90 := hup.2
    have h' : (c.val + ('a'.val - 'A'.val)).toNat = d.val.toNat := congrArg (·.val.toNat) h
    rw [UInt32.toNat_add] at h'
    have : ('a'.val - 'A'.val).toNat = 32 := by decide
    rw [this] at h'
    have hd' : d.val.toNat < 65 := hd
    omega
  · exact h

theorem not_mem_toLower {m : Char} (hm : m.toNat < 0x41) {buf : List Char} (h : m ∉ buf) :
    m ∉ (String.ofList buf).toLower.toList := by
  rw [String.toLower, String.toList_map, String.toList_ofList]
  intro hmem
  obtain ⟨c, hc, hcm⟩ := List.mem_map.1 hmem
  exact h (toLower_eq_of_lt hm hcm ▸ hc)

theorem closeSegment_plain (slash : Bool) {buf : List Char} (h : ∀ c ∈ buf, segmentChar c = true)
    (parts : List String) :
    closeSegment false (String.ofList buf) slash parts = parts ++ [String.ofList buf] := by
  have hdot := not_mem_toLower (m := '.') (by decide) fun hm => absurd (h _ hm) (by decide)
  have hpct := not_mem_toLower (m := '%') (by decide) fun hm => absurd (h _ hm) (by decide)
  have hsingle : isSingleDot (String.ofList buf) = false := by
    simp only [isSingleDot, Bool.or_eq_false_iff, beq_eq_false_iff_ne, ne_eq]
    refine ⟨fun e => ?_, fun e => hpct (by rw [e]; decide)⟩
    have : '.' ∈ (String.ofList buf).toList := by rw [e]; decide
    rw [String.toList_ofList] at this
    exact absurd (h _ this) (by decide)
  have hdouble : isDoubleDot (String.ofList buf) = false := by
    simp only [isDoubleDot, List.contains_eq_mem, decide_eq_false_iff_not, List.mem_cons,
      List.not_mem_nil, or_false, not_or]
    refine ⟨fun e => hdot (by rw [e]; decide), fun e => hdot (by rw [e]; decide),
      fun e => hpct (by rw [e]; decide), fun e => hpct (by rw [e]; decide)⟩
  simp [closeSegment, hsingle, hdouble]

theorem encodeChar_path_of_segmentChar {c : Char} (h : segmentChar c = true) :
    encodeChar .path c = [c] := by
  obtain ⟨hlo, hhi⟩ := toNat_of_segmentChar h
  have hmarks : ∀ x ∈ EncodeSet.path.marks, segmentChar x = false := by
    simp only [EncodeSet.path, EncodeSet.query, List.cons_append, List.nil_append, List.mem_cons,
      List.not_mem_nil, or_false]
    rintro x (rfl | rfl | rfl | rfl | rfl | rfl | rfl | rfl | rfl) <;> rfl
  have hkept : EncodeSet.path.escapes c.toNat = false := by
    simp only [EncodeSet.escapes, Char.ofNat_toNat, Bool.or_eq_false_iff, decide_eq_false_iff_not,
      List.contains_eq_mem]
    exact ⟨⟨by omega, by omega⟩, fun hm => Bool.false_ne_true ((hmarks c hm).symm.trans h)⟩
  simp only [encodeChar, utf8Bytes, show c.toNat < 0x80 by omega, if_true, List.flatMap_cons,
    List.flatMap_nil, List.append_nil, encodeByte, hkept, Bool.false_eq_true, if_false,
    Char.ofNat_toNat]

/-- Reading a plain path cuts it at every `/`. -/
theorem readSegments_plain (setter : Bool) (cs : List Char) (hcs : ∀ c ∈ cs, pathChar c = true)
    (buf : List Char) (hbuf : ∀ c ∈ buf, segmentChar c = true) (parts : List String) :
    readSegments true false setter cs (String.ofList buf) parts =
      (parts ++ ((buf ++ cs).splitOn '/').map String.ofList, []) := by
  induction cs generalizing buf parts with
  | nil =>
    have hslash : '/' ∉ buf := fun hm => absurd (hbuf _ hm) (by decide)
    simp [readSegments, closeSegment_plain false hbuf, List.splitOn_eq_singleton hslash]
  | cons c cs ih =>
    have hslash : '/' ∉ buf := fun hm => absurd (hbuf _ hm) (by decide)
    have hcs' : ∀ x ∈ cs, pathChar x = true := fun x hx => hcs x (List.mem_cons_of_mem c hx)
    by_cases hc : c = '/'
    · -- a slash closes the segment read so far
      subst hc
      rw [readSegments, if_pos (by simp), closeSegment_plain true hbuf,
        show "" = String.ofList [] from rfl, ih hcs' [] (by simp),
        List.splitOn_append_cons_self_of_not_mem hslash]
      simp
    · -- any other character of a plain path joins the segment as it is
      have hseg : segmentChar c = true := by
        have := hcs c List.mem_cons_self
        simpa [pathChar, hc] using this
      rw [readSegments,
        if_neg (by simp [hc, ne_of_segmentChar hseg (show segmentChar '\\' = false by decide)]),
        if_neg (by simp [ne_of_segmentChar hseg (show segmentChar '?' = false by decide),
          ne_of_segmentChar hseg (show segmentChar '#' = false by decide)]),
        encodeChar_path_of_segmentChar hseg, ← String.ofList_append,
        ih hcs' (buf ++ [c]) fun x hx =>
          (List.mem_append.1 hx).elim (hbuf x) fun hx => List.mem_singleton.1 hx ▸ hseg]
      simp

/-- A plain path is empty, or `/` followed by path characters. -/
theorem plainPath_cases {cs : List Char} (h : plainPath cs = true) :
    cs = [] ∨ ∃ p, cs = '/' :: p ∧ ∀ c ∈ p, pathChar c = true := by
  cases cs with
  | nil => exact .inl rfl
  | cons c p =>
    simp only [plainPath, Bool.and_eq_true, decide_eq_true_eq, List.all_eq_true] at h
    exact .inr ⟨p, h.1 ▸ rfl, h.2⟩

/-- A plain path is read as its text cut at every `/` after the first. -/
theorem readPath_plain (setter : Bool) {cs : List Char} (h : plainPath cs = true) :
    readPath true false setter cs = (((cs.drop 1).splitOn '/').map String.ofList, []) := by
  rcases plainPath_cases h with rfl | ⟨p, rfl, hp⟩
  · simpa [readPath] using readSegments_plain setter [] (by simp) [] (by simp) []
  · simpa [readPath] using readSegments_plain setter p hp [] (by simp) []

/-- Segments cut at `/` and written each after a `/` give the text back. -/
theorem flatMap_splitOn_slash (cs : List Char) :
    (cs.splitOn '/').flatMap ('/' :: ·) = '/' :: cs := by
  induction cs with
  | nil => rfl
  | cons c cs ih =>
    rw [List.splitOn_cons_eq_if_modifyHead]
    by_cases hc : c = '/'
    · subst hc
      simp [ih]
    · obtain ⟨h, t, ht⟩ := List.exists_cons_of_ne_nil (List.splitOn_ne_nil '/' cs)
      rw [ht] at ih ⊢
      have ih' : h ++ t.flatMap ('/' :: ·) = cs := by simpa using ih
      simp [hc, ih']

/-- The path text of segments read from a plain path is that path. -/
theorem pathText_of_splitOn {v : Url} {cs : List Char}
    (h : v.path = .segments ((cs.splitOn '/').map String.ofList)) :
    v.pathText = String.ofList ('/' :: cs) := by
  rw [pathText, h, ← String.toList_inj, String.toList_join, String.toList_ofList]
  rw [← flatMap_splitOn_slash cs]
  simp [List.flatMap_map]

/-- A plain path is `/` followed by the rest of its text. -/
theorem slash_drop_of_plainPath {cs : List Char} (h : plainPath cs = true) (hne : cs ≠ []) :
    '/' :: cs.drop 1 = cs := by
  rcases plainPath_cases h with rfl | ⟨p, rfl, -⟩
  · exact absurd rfl hne
  · rfl

/-- `v` stands at the host and port of `site`, with path text `path` and query pairs
`pairs`. -/
structure At (v site : Url) (path : String) (pairs : List (String × String)) : Prop where
  host : v.host = site.host
  port : v.port = site.port
  pathText : v.pathText = path
  pairs : v.queryPairs = some pairs

/-- A plain path holds no space or control. -/
theorem toNat_of_plainPath {cs : List Char} (h : plainPath cs = true) :
    ∀ c ∈ cs, 0x20 < c.toNat := by
  rcases plainPath_cases h with rfl | ⟨p, rfl, hp⟩
  · simp
  intro x hx
  rcases List.mem_cons.1 hx with rfl | hx
  · decide
  · have := hp x hx
    simp only [pathChar, Bool.or_eq_true, decide_eq_true_eq] at this
    rcases this with hs | rfl
    · exact (toNat_of_segmentChar hs).1
    · decide

end Url

/-! ## Origins -/

namespace Origin

/-- A character that may stand in a host name as an origin writes it: neither a space nor a
control, nor one of the characters that end an authority or mark its credentials, its port or
an address in brackets. -/
def nameChar (c : Char) : Bool := 0x20 < c.toNat && c ∉ ['/', '\\', '?', '#', '@', ':', '[', ']']

/-- A character of an address in brackets: as in a name, and colons too. -/
def addressChar (c : Char) : Bool := 0x20 < c.toNat && c ∉ ['/', '\\', '?', '#', '@', '[', ']']

/-- A host as an origin writes it: a name of at least one character, or an address in
brackets. -/
def hostForm : List Char → Bool
  | '[' :: rest => rest.getLast? == some ']' && rest.dropLast.all addressChar
  | cs => !cs.isEmpty && cs.all nameChar

end Origin

/-- An origin `http://host[:port]` or `https://host[:port]`, with or without a trailing slash:
the shape the backend's address is configured in. -/
structure Origin where
  secure : Bool
  host : String
  port : Option String := none
  slash : Bool := false
  host_form : Origin.hostForm host.toList = true
  port_digits : port.all (·.toList.all Char.isDigit) = true

namespace Origin

variable (o : Origin)

/-- `https` for a secure origin, `http` otherwise. -/
def schemeName : String := if o.secure then "https" else "http"

/-- `:` and the port, when there is one. -/
def portPart : List Char :=
  match o.port with
  | some p => ':' :: p.toList
  | none => []

/-- The authority: the host, then the port. -/
def authority : List Char := o.host.toList ++ o.portPart

/-- The origin written without a trailing slash: scheme, `://`, authority. -/
def base : List Char := o.schemeName.toList ++ ':' :: '/' :: '/' :: o.authority

/-- The origin as it is written. -/
def text : String :=
  o.schemeName ++ "://" ++ o.host ++
    (match o.port with | some p => ":" ++ p | none => "") ++ (if o.slash then "/" else "")

theorem toList_text : o.text.toList = o.base ++ (if o.slash then ['/'] else []) := by
  unfold text base authority portPart
  cases o.port <;> cases o.slash <;> simp

/-- What stands in an authority without ending it, marking credentials, or being trimmed or
dropped when a URL is read. -/
def AuthorityChar (c : Char) : Prop :=
  0x20 < c.toNat ∧ c ≠ '/' ∧ c ≠ '\\' ∧ c ≠ '?' ∧ c ≠ '#' ∧ c ≠ '@'

/-- A host is a name, or an address in brackets. -/
theorem hostForm_cases {cs : List Char} (h : hostForm cs = true) :
    (cs ≠ [] ∧ ∀ c ∈ cs, nameChar c = true) ∨
      ∃ inner, cs = '[' :: inner ++ [']'] ∧ ∀ c ∈ inner, addressChar c = true := by
  rw [hostForm.eq_def] at h
  split at h
  · rename_i rest
    simp only [Bool.and_eq_true, beq_iff_eq, List.all_eq_true] at h
    obtain ⟨inner, rfl⟩ := List.getLast?_eq_some_iff.1 h.1
    exact .inr ⟨inner, rfl, by simpa using h.2⟩
  · simp only [Bool.and_eq_true, Bool.not_eq_true', List.isEmpty_eq_false_iff,
      List.all_eq_true] at h
    exact .inl h

theorem authorityChar_of_nameChar {c : Char} (h : nameChar c = true) : AuthorityChar c := by
  simp only [nameChar, Bool.and_eq_true, decide_eq_true_eq, List.mem_cons, List.not_mem_nil,
    or_false, not_or] at h
  exact ⟨h.1, h.2.1, h.2.2.1, h.2.2.2.1, h.2.2.2.2.1, h.2.2.2.2.2.1⟩

theorem authorityChar_of_addressChar {c : Char} (h : addressChar c = true) : AuthorityChar c := by
  simp only [addressChar, Bool.and_eq_true, decide_eq_true_eq, List.mem_cons, List.not_mem_nil,
    or_false, not_or] at h
  exact ⟨h.1, h.2.1, h.2.2.1, h.2.2.2.1, h.2.2.2.2.1, h.2.2.2.2.2.1⟩

theorem authorityChar_of_isDigit {c : Char} (h : c.isDigit = true) : AuthorityChar c := by
  have hc : 48 ≤ c.toNat ∧ c.toNat ≤ 57 := by
    simp only [Char.isDigit, Bool.and_eq_true, decide_eq_true_eq] at h
    exact ⟨h.1, h.2⟩
  refine ⟨by omega, ?_, ?_, ?_, ?_, ?_⟩ <;> rintro rfl <;> revert hc <;> decide

/-- Every character of an origin's authority stands in it as it is. -/
theorem authorityChar_of_mem {c : Char} (h : c ∈ o.authority) : AuthorityChar c := by
  rcases List.mem_append.1 h with h | h
  · rcases hostForm_cases o.host_form with ⟨-, hname⟩ | ⟨inner, hin, haddr⟩
    · exact authorityChar_of_nameChar (hname c h)
    · rw [hin] at h
      simp only [List.cons_append, List.mem_cons, List.mem_append, List.not_mem_nil,
        or_false] at h
      rcases h with rfl | h | rfl
      · unfold AuthorityChar; decide
      · exact authorityChar_of_addressChar (haddr c h)
      · unfold AuthorityChar; decide
  · have hd := o.port_digits
    unfold portPart at h
    split at h
    · rename_i p hp
      rw [hp] at hd
      simp only [Option.all_some, List.all_eq_true] at hd
      rcases List.mem_cons.1 h with rfl | h
      · unfold AuthorityChar; decide
      · exact authorityChar_of_isDigit (hd c h)
    · cases h

/-! ## Reading an origin -/

/-- A name is read whole as host text, and reading goes on with what follows it. -/
theorem hostText_name {cs : List Char} (h : ∀ c ∈ cs, nameChar c = true) (rest : List Char) :
    Url.hostText true (cs ++ rest) false =
      (cs ++ (Url.hostText true rest false).1, (Url.hostText true rest false).2) := by
  induction cs with
  | nil => rfl
  | cons c cs ih =>
    have hc := h c List.mem_cons_self
    simp only [nameChar, Bool.and_eq_true, decide_eq_true_eq, List.mem_cons, List.not_mem_nil,
      or_false, not_or] at hc
    obtain ⟨-, h1, h2, h3, h4, -, h5, h6, h7⟩ := hc
    rw [List.cons_append, Url.hostText]
    simp [h1, h2, h3, h4, h5, h6, h7, ih fun x hx => h x (List.mem_cons_of_mem c hx)]

/-- Between brackets a colon does not end the host text. -/
theorem hostText_inside {cs : List Char} (h : ∀ c ∈ cs, addressChar c = true) (rest : List Char) :
    Url.hostText true (cs ++ rest) true =
      (cs ++ (Url.hostText true rest true).1, (Url.hostText true rest true).2) := by
  induction cs with
  | nil => rfl
  | cons c cs ih =>
    have hc := h c List.mem_cons_self
    simp only [addressChar, Bool.and_eq_true, decide_eq_true_eq, List.mem_cons, List.not_mem_nil,
      or_false, not_or] at hc
    obtain ⟨-, h1, h2, h3, h4, -, h5, h6⟩ := hc
    rw [List.cons_append, Url.hostText]
    simp [h1, h2, h3, h4, h5, h6, ih fun x hx => h x (List.mem_cons_of_mem c hx)]

/-- Host text stops at a port, at a path, or at the end. -/
theorem hostText_stop {rest : List Char} (h : rest = [] ∨ rest.head? = some ':' ∨
    rest.head? = some '/') : Url.hostText true rest false = ([], rest) := by
  cases rest with
  | nil => rfl
  | cons c r =>
    have hc : c = ':' ∨ c = '/' := by simpa using h
    rw [Url.hostText]
    rcases hc with rfl | rfl <;> simp

/-- Reading an origin's authority followed by a plain path finds the whole host as host text. -/
theorem hostText_authority {T : List Char} (hT : Url.plainPath T = true) :
    Url.hostText true (o.authority ++ T) false = (o.host.toList, o.portPart ++ T) := by
  have hstop : Url.hostText true (o.portPart ++ T) false = ([], o.portPart ++ T) := by
    apply hostText_stop
    unfold portPart
    cases o.port with
    | some p => simp
    | none => rcases Url.plainPath_cases hT with rfl | ⟨p, rfl, -⟩ <;> simp
  unfold authority
  rw [List.append_assoc]
  rcases hostForm_cases o.host_form with ⟨-, hname⟩ | ⟨inner, hin, haddr⟩
  · rw [hostText_name hname, hstop, List.append_nil]
  · rw [hin]
    simp only [List.cons_append, List.append_assoc]
    rw [Url.hostText]
    simp [hostText_inside haddr, Url.hostText, hstop]

/-- A port followed by a plain path reads as the port alone, the path left to read. -/
theorem readPort_append {s : String} {ds T : List Char} (hds : ∀ c ∈ ds, c.isDigit = true)
    (hT : Url.plainPath T = true) :
    Url.readPort s (ds ++ T) = (fun r => (r.1, T)) <$> Url.readPort s ds := by
  have htail : T.takeWhile Char.isDigit = [] := by
    rcases Url.plainPath_cases hT with rfl | ⟨p, rfl, -⟩ <;> rfl
  have htake : (ds ++ T).takeWhile Char.isDigit = ds := by
    rw [List.takeWhile_append_of_pos hds, htail, List.append_nil]
  have htake' : ds.takeWhile Char.isDigit = ds := by
    have h0 : (ds ++ []).takeWhile Char.isDigit = ds ++ ([] : List Char).takeWhile Char.isDigit :=
      List.takeWhile_append_of_pos hds
    simpa using h0
  unfold Url.readPort
  simp only [htake, htake', List.drop_left, List.drop_length]
  split
  · rfl
  · rcases Url.plainPath_cases hT with rfl | ⟨p, rfl, -⟩ <;> rfl

/-- What reading the authority of `o` comes to, whatever plain path follows it: its host read,
a host that reads as an empty domain refused, then its port. -/
def site : Except UrlError (Host × Option Nat) := do
  let h ← Host.parse o.host
  if h = .domain "" then throw .emptyHost
  let port ← match o.port with
    | some ds => (·.1) <$> Url.readPort o.schemeName ds.toList
    | none => pure none
  pure (h, port)

/-- The URL at the origin's site with the given path segments. -/
def siteUrl (site : Host × Option Nat) (parts : List String) : Url :=
  { scheme := o.schemeName, host := some site.1, port := site.2, path := .segments parts }

theorem isSpecialScheme_schemeName : Url.isSpecialScheme o.schemeName = true := by
  unfold schemeName
  cases o.secure <;> rfl

theorem lastAt_authority : Url.lastAt o.authority = none := by
  have hat : ∀ c ∈ o.authority, c ≠ '@' := fun c hc => (authorityChar_of_mem o hc).2.2.2.2.2
  simp only [Url.lastAt, Option.map_eq_none_iff, List.getLast?_eq_none_iff, List.filter_eq_nil_iff]
  intro x hx
  simpa using hat x.1 (List.fst_mem_of_mem_zipIdx hx)

/-- Taking the characters that do not end an authority stops at the end of the origin's: a
plain path after it starts with `/`. -/
theorem takeWhile_authority {T : List Char} (hT : Url.plainPath T = true) (p : Char → Bool)
    (hp : ∀ c, AuthorityChar c → p c = true) (hslash : p '/' = false) :
    (o.authority ++ T).takeWhile p = o.authority := by
  rw [List.takeWhile_append_of_pos fun c hc => hp c (authorityChar_of_mem o hc)]
  rcases Url.plainPath_cases hT with rfl | ⟨r, rfl, -⟩
  · simp
  · rw [List.takeWhile_cons, hslash]
    simp

theorem host_isEmpty : o.host.isEmpty = false := by
  rcases hostForm_cases o.host_form with ⟨hne, -⟩ | ⟨inner, hin, -⟩
  · simpa [← String.toList_eq_nil_iff] using hne
  · simp [← String.toList_eq_nil_iff, hin]

/-- An authority followed by a plain path is read as the origin's site with that path. -/
theorem readAuthority_authority {T : List Char} (hT : Url.plainPath T = true) :
    Url.readAuthority o.schemeName (o.authority ++ T) =
      (o.siteUrl · (((T.drop 1).splitOn '/').map String.ofList)) <$> o.site := by
  unfold Url.readAuthority
  simp only [isSpecialScheme_schemeName]
  rw [o.takeWhile_authority hT _ (fun c hc => by simp [hc.2.1, hc.2.2.1, hc.2.2.2.1, hc.2.2.2.2.1])
    (by decide), lastAt_authority]
  have hpath := Url.readPath_plain false hT
  simp only [pure_bind, hostText_authority o hT, String.ofList_toList, host_isEmpty, Bool.and_false,
    Bool.false_eq_true, if_false]
  cases hh : Host.parse o.host with
  | error e => simp only [site, hh]; rfl
  | ok h =>
    by_cases hd : h = .domain ""
    · -- an empty domain is refused whatever follows it
      simp only [site, hh, hd, if_true]
      split <;> rfl
    simp only [site, hh, hd, if_true, if_false, bind, Except.bind, decide_false, Bool.false_and,
      Bool.false_eq_true]
    have hread : ∀ port : Option Nat, Url.readTail true
        { scheme := o.schemeName, host := some h, port := port,
          path := .segments (Url.readPath true false false T).1 }
        (Url.readPath true false false T).2 =
        o.siteUrl (h, port) (((T.drop 1).splitOn '/').map String.ofList) := by
      intro port
      rw [hpath]
      rfl
    cases hp : o.port with
    | none =>
      -- no port: the path follows the host
      simp only [portPart, hp, List.nil_append]
      rcases Url.plainPath_cases hT with rfl | ⟨r, rfl, -⟩ <;> exact congrArg Except.ok (hread none)
    | some ds =>
      have hds : ∀ c ∈ ds.toList, c.isDigit = true := by
        have := o.port_digits
        rw [hp] at this
        simpa using this
      simp only [portPart, hp, List.cons_append, readPort_append hds hT]
      cases hr : Url.readPort o.schemeName ds.toList with
      | error e => rfl
      | ok v => exact congrArg Except.ok (hread v.1)

theorem authority_ne_nil : o.authority ≠ [] := by
  unfold authority
  rcases hostForm_cases o.host_form with ⟨hne, -⟩ | ⟨inner, hin, -⟩
  · simp [hne]
  · simp [hin]

/-- A text without spaces or controls is read as it is written. -/
theorem prepare_of_visible {s : String} (h : ∀ c ∈ s.toList, 0x20 < c.toNat) :
    Url.prepare s = s.toList := by
  have hcs : ∀ c ∈ s.toList, Url.isControlOrSpace c = false := by
    intro c hc
    simpa [Url.isControlOrSpace] using h c hc
  have hdrop : ∀ l : List Char, (∀ c ∈ l, Url.isControlOrSpace c = false) →
      l.dropWhile Url.isControlOrSpace = l := by
    intro l hl
    cases l with
    | nil => rfl
    | cons c r => rw [List.dropWhile_cons, hl c List.mem_cons_self]; rfl
  simp only [Url.prepare, hdrop _ hcs, hdrop _ fun c hc => hcs c (List.mem_reverse.1 hc),
    List.reverse_reverse, List.filter_eq_self]
  intro c hc
  have := h c hc
  simp only [Url.isTabOrNewline, Bool.not_eq_eq_eq_not, Bool.not_true, Bool.or_eq_false_iff,
    decide_eq_false_iff_not]
  refine ⟨⟨?_, ?_⟩, ?_⟩ <;> rintro rfl <;> revert this <;> decide

theorem schemeName_toList :
    o.schemeName.toList = if o.secure then ['h', 't', 't', 'p', 's'] else ['h', 't', 't', 'p'] := by
  unfold schemeName
  cases o.secure <;> rfl

theorem readScheme_schemeName (rest : List Char) :
    Url.readScheme (o.schemeName.toList ++ ':' :: rest) = some (o.schemeName, rest) := by
  rw [schemeName_toList]
  unfold schemeName
  by_cases hs : o.secure <;> simp [hs, Url.readScheme, Url.isSchemeChar]

/-- The origin's scheme, then `//`, its authority and a plain path, read as a URL, is its
authority read with that path. -/
theorem parse_authority {T : List Char} (hT : Url.plainPath T = true) :
    Url.parse (String.ofList (o.base ++ T)) = Url.readAuthority o.schemeName (o.authority ++ T) := by
  rw [base, List.append_assoc, List.cons_append, List.cons_append, List.cons_append]
  have hT' : ∀ c ∈ T, 0x20 < c.toNat := Url.toNat_of_plainPath hT
  have hvis : ∀ c ∈ (String.ofList (o.schemeName.toList ++ ':' :: '/' :: '/' ::
      (o.authority ++ T))).toList, 0x20 < c.toNat := by
    intro c hc
    rw [String.toList_ofList] at hc
    rcases List.mem_append.1 hc with hc | hc
    · -- the scheme's letters
      have hletters : ∀ c ∈ o.schemeName.toList, 0x20 < c.toNat := by
        rw [schemeName_toList]
        cases o.secure <;> simp
      exact hletters c hc
    · simp only [List.mem_cons, List.mem_append] at hc
      rcases hc with rfl | rfl | rfl | hc | hc
      · decide
      · decide
      · decide
      · exact (authorityChar_of_mem o hc).1
      · exact hT' c hc
  have hfile : o.schemeName ≠ "file" := by unfold schemeName; cases o.secure <;> decide
  have hdrop : (o.authority ++ T).dropWhile (fun c => decide (c = '/') || decide (c = '\\')) =
      o.authority ++ T := by
    obtain ⟨c, r, hcr⟩ := List.exists_cons_of_ne_nil (authority_ne_nil o)
    have hc := authorityChar_of_mem o (hcr ▸ List.mem_cons_self : c ∈ o.authority)
    rw [hcr, List.cons_append, List.dropWhile_cons_of_neg (by simp [hc.2.1, hc.2.2.1])]
  unfold Url.parse
  rw [prepare_of_visible hvis, String.toList_ofList, readScheme_schemeName]
  simp only [hfile, if_false, isSpecialScheme_schemeName, if_true]
  rw [List.dropWhile_cons_of_pos (by decide), List.dropWhile_cons_of_pos (by decide), hdrop]

/-- The origin is read as its site with the root path. -/
theorem parse_text : Url.parse o.text = (o.siteUrl · [""]) <$> o.site := by
  have hT : Url.plainPath (if o.slash then ['/'] else []) = true := by cases o.slash <;> rfl
  rw [← String.ofList_toList (s := o.text), toList_text, parse_authority o hT,
    readAuthority_authority o hT]
  cases o.slash <;> rfl

/-- Trimming the slashes off the origin leaves it without its trailing slash. -/
theorem trimmedOrigin_eq {c : ChatConfig} (hc : c.origin = o.text) :
    c.trimmedOrigin = String.ofList o.base := by
  obtain ⟨d, r, hdr⟩ := List.exists_cons_of_ne_nil
    (List.reverse_ne_nil_iff.2 (authority_ne_nil o))
  have hd : d ≠ '/' :=
    (authorityChar_of_mem o (List.mem_reverse.1 (hdr ▸ List.mem_cons_self))).2.1
  have hrev : o.base.reverse = d :: (r ++ ('/' :: '/' :: ':' :: o.schemeName.toList.reverse)) := by
    simp [base, hdr]
  have hkeep : o.base.reverse.dropWhile (· = '/') = o.base.reverse := by
    rw [hrev, List.dropWhile_cons_of_neg (by simpa using hd)]
  rw [ChatConfig.trimmedOrigin, hc, toList_text]
  cases o.slash
  · simp [hkeep]
  · simp only [if_true, List.reverse_append, List.reverse_cons, List.reverse_nil, List.nil_append,
      List.singleton_append]
    rw [List.dropWhile_cons_of_pos (by simp), hkeep, List.reverse_reverse]

/-- An API address is read as the origin's site with the prefix and the endpoint's path. -/
theorem parse_apiUrl {c : ChatConfig} (hc : c.origin = o.text) {path : String}
    (hp : Url.plainPath (c.apiPrefix ++ path).toList = true) :
    Url.parse (c.apiUrl path) =
      (o.siteUrl · ((((c.apiPrefix ++ path).toList.drop 1).splitOn '/').map String.ofList)) <$>
        o.site := by
  rw [ChatConfig.apiUrl, trimmedOrigin_eq o hc, String.append_assoc,
    ← String.ofList_toList (s := String.ofList o.base ++ (c.apiPrefix ++ path)),
    String.toList_append, String.toList_ofList, parse_authority o hp, readAuthority_authority o hp]

/-! ## Moving a URL to the socket -/

/-- The port kept after reading is never the given default: that one is dropped. -/
theorem keptPort_ne_default {e : Bool} {d : Option Nat} {value v : Nat}
    (hv : (if e || d = some value then none else some value) = some v) : d ≠ some v := by
  split at hv
  · cases hv
  · next hnot =>
    cases hv
    exact fun hd => hnot (by simp [hd])

/-- A port that is read is never its scheme's default: the default is dropped. -/
theorem readPort_ne_default {s : String} {cs r : List Char} {p : Option Nat}
    (h : Url.readPort s cs = .ok (p, r)) : ∀ v, p = some v → Url.defaultPort s ≠ some v := by
  intro v hv
  unfold Url.readPort at h
  simp only at h
  -- the port is kept, or dropped as the default, in the same way before a path and at the end
  split at h
  · cases h
  · split at h
    · split at h
      · simp only [Except.ok.injEq, Prod.mk.injEq] at h
        obtain ⟨rfl, -⟩ := h
        exact keptPort_ne_default hv
      · cases h
    · simp only [Except.ok.injEq, Prod.mk.injEq] at h
      obtain ⟨rfl, -⟩ := h
      exact keptPort_ne_default hv

/-- A site that is read has a host that is not an empty domain and a port that is not the
scheme's default. -/
theorem site_ok {h : Host} {p : Option Nat} (hs : o.site = .ok (h, p)) :
    h ≠ .domain "" ∧ ∀ v, p = some v → Url.defaultPort o.schemeName ≠ some v := by
  unfold site at hs
  cases hh : Host.parse o.host with
  | error e => simp [hh] at hs; cases hs
  | ok h' =>
    simp only [hh, bind, Except.bind] at hs
    by_cases hd : h' = .domain ""
    · simp [hd] at hs
    simp only [hd, if_false] at hs
    cases hp : o.port with
    | none =>
      simp only [hp] at hs
      cases hs
      exact ⟨hd, fun v hv => by cases hv⟩
    | some ds =>
      simp only [hp] at hs
      cases hr : Url.readPort o.schemeName ds.toList with
      | error e => simp [hr] at hs
      | ok v =>
        simp only [hr] at hs
        cases hs
        exact ⟨hd, readPort_ne_default (r := v.2) (by rw [hr])⟩

/-- Switching the site's URL to the socket scheme keeps its host and port: the port is not the
default of the origin's scheme, and `ws` and `wss` share the defaults of `http` and `https`. -/
theorem setScheme_siteUrl {h : Host} {p : Option Nat} (hs : o.site = .ok (h, p))
    (parts : List String) :
    (o.siteUrl (h, p) parts).setScheme (if o.schemeName = "https" then "wss" else "ws") =
      { o.siteUrl (h, p) parts with scheme := if o.secure then "wss" else "ws" } := by
  obtain ⟨hd, hport⟩ := site_ok o hs
  have hkeep : ∀ s, Url.defaultPort s = Url.defaultPort o.schemeName →
      (if p = Url.defaultPort s then none else p) = p := by
    intro s hs'
    rw [hs']
    cases p with
    | none => unfold schemeName; cases o.secure <;> rfl
    | some v => exact if_neg fun e => hport v rfl e.symm
  unfold Url.setScheme siteUrl schemeName at *
  by_cases hsec : o.secure
  · simp only [hsec, if_true] at hkeep ⊢
    rw [hkeep "wss" rfl]
    simp [Url.isSpecial, Url.isSpecialScheme, hd]
  · simp only [hsec, if_false, Bool.false_eq_true, show ¬("http" = "https") by decide] at hkeep ⊢
    rw [hkeep "ws" rfl]
    simp [Url.isSpecial, Url.isSpecialScheme, hd]

/-- Setting a plain path on a URL of a special scheme other than `file` cuts it at `/`. -/
theorem setPath_plain {u : Url} (hsp : u.isSpecial = true) (hfile : u.scheme ≠ "file")
    {parts : List String} (hparts : u.path = .segments parts) {path : String}
    (hp : Url.plainPath path.toList = true) :
    u.setPath path =
      { u with path := .segments (((path.toList.drop 1).splitOn '/').map String.ofList) } := by
  have hkeep : path.toList.filter (!Url.isTabOrNewline ·) = path.toList := by
    rw [List.filter_eq_self]
    intro c hc
    have := Url.toNat_of_plainPath hp c hc
    simp only [Url.isTabOrNewline, Bool.not_eq_eq_eq_not, Bool.not_true, Bool.or_eq_false_iff,
      decide_eq_false_iff_not]
    refine ⟨⟨?_, ?_⟩, ?_⟩ <;> rintro rfl <;> revert this <;> decide
  unfold Url.setPath
  rw [hkeep, hparts]
  simp only [hsp, hfile, decide_false, Url.readPath_plain true hp]

end Origin

/-! ## Endpoints -/

namespace Api

/-- The endpoints of the backend, each with the ids it is called with. Each constructor stands
for the endpoint of the same name, with the path and the query pairs it builds its address
from. -/
inductive Endpoint where
  | currentUser
  | findConversation (listingId sellerId : Int) (buyerId : String)
  | createConversation
  | messages (chatId : Int)
  | markRead (chatId : Int) (userId : String)
  | sellerGroups (sellerId : Int)
  | conversationInfo (chatId : Int)
  | deleteConversation (chatId : Int)
  | listing (listingId : Int)

namespace Endpoint

/-- The endpoint's path, the ids in decimal. -/
def path : Endpoint → String
  | currentUser => "/auth/me"
  | findConversation .. => "/chat/chats/find"
  | createConversation => "/chat/chats"
  | messages c => "/chat/chats/" ++ toString c ++ "/messages"
  | markRead c _ => "/chat/chats/" ++ toString c ++ "/read"
  | sellerGroups s => "/chat/chats/seller/" ++ toString s ++ "/grouped"
  | conversationInfo c => "/chat/chats/" ++ toString c ++ "/info"
  | deleteConversation c => "/chat/chats/" ++ toString c
  | listing _ => "/posts/iphone"

/-- The endpoint's query pairs, in order. -/
def params : Endpoint → List (String × String)
  | findConversation l s b => [("iphone_id", toString l), ("seller_id", toString s), ("buyer_id", b)]
  | markRead _ u => [("user_id", u)]
  | listing l => [("id", toString l)]
  | _ => []

/-- The text of an integer goes into a path as it is. -/
theorem all_pathChar_intText (X : Int) : (toString X).toList.all Url.pathChar = true := by
  rw [List.all_eq_true]
  intro c hc
  rcases intText_chars X c hc with hd | rfl
  · simp [Url.pathChar, Url.segmentChar, Char.isAlphanum, hd]
  · rfl

theorem all_pathChar_path (e : Endpoint) : e.path.toList.all Url.pathChar = true := by
  cases e <;> unfold path <;>
    simp only [String.toList_append, List.all_append, all_pathChar_intText, Bool.and_true] <;>
    decide

/-- A path of plain characters after the default prefix is plain. -/
theorem plainPath_prefix {path : String} (h : path.toList.all Url.pathChar = true) :
    Url.plainPath ("/api/v1" ++ path).toList = true := by
  rw [String.toList_append]
  simp only [show "/api/v1".toList = ['/', 'a', 'p', 'i', '/', 'v', '1'] from rfl, List.cons_append,
    Url.plainPath, List.all_cons, List.all_append, h]
  decide

/-- Every endpoint's path, after the default prefix, is plain. -/
theorem plainPath_prefix_path (e : Endpoint) : Url.plainPath ("/api/v1" ++ e.path).toList = true :=
  plainPath_prefix (all_pathChar_path e)

/-- So is the socket path of every chat. -/
theorem plainPath_prefix_socket (chatId : Int) :
    Url.plainPath ("/api/v1" ++ "/chat/ws/" ++ toString chatId).toList = true := by
  rw [String.append_assoc]
  apply plainPath_prefix
  rw [String.toList_append, List.all_append, all_pathChar_intText, Bool.and_true]
  decide

end Endpoint

end Api

/-! ## Addresses -/

namespace Origin

variable (o : Origin)

/-- The REST address of an endpoint, built on a site that is read: the site's URL with the
endpoint's path, and its query pairs when it has any. -/
theorem address_of_site {c : ChatConfig} (hc : c.origin = o.text) {h : Host} {p : Option Nat}
    (hs : o.site = .ok (h, p)) {path : String} (hp : Url.plainPath (c.apiPrefix ++ path).toList = true)
    (hne : c.apiPrefix ++ path ≠ "") (params : List (String × String)) :
    ∃ rest : Url, Url.parse (c.apiUrl path) = .ok { rest with query := none } ∧
      Api.address c path params = .ok rest.serialize ∧ rest.scheme = o.schemeName ∧
      rest.At (o.siteUrl (h, p) [""]) (c.apiPrefix ++ path) params := by
  let base := o.siteUrl (h, p) ((((c.apiPrefix ++ path).toList.drop 1).splitOn '/').map String.ofList)
  have hbase : Url.parse (c.apiUrl path) = .ok base := by rw [o.parse_apiUrl hc hp, hs]; rfl
  have hpath : base.pathText = c.apiPrefix ++ path := by
    rw [Url.pathText_of_splitOn rfl, Url.slash_drop_of_plainPath hp (by simpa using hne),
      String.ofList_toList]
  by_cases hpar : params = []
  · -- no pairs: the address is the URL read, without a query
    subst hpar
    refine ⟨base, hbase, by simp [Api.address, hbase], rfl, rfl, rfl, hpath, rfl⟩
  · -- pairs: they are appended, form-encoded, to the URL read
    refine ⟨base.appendPairs params, hbase, ?_, rfl, rfl, rfl, hpath,
      Url.queryPairs_appendPairs base rfl params hpar⟩
    simp [Api.address, hbase, hpar]

/-- The socket address built on a site that is read: the site's URL with the socket scheme, the
socket path, and the user's id as its only query pair. -/
theorem socketUrl_of_site {c : ChatConfig} (hc : c.origin = o.text) {h : Host} {p : Option Nat}
    (hs : o.site = .ok (h, p)) (chatId : Int) (userId : String)
    (hp : Url.plainPath (c.apiPrefix ++ "/chat/ws/" ++ toString chatId).toList = true) :
    ∃ sock, c.socketUrl chatId userId = .ok sock ∧
      sock.scheme = (if o.secure then "wss" else "ws") ∧ sock.At (o.siteUrl (h, p) [""]) (c.apiPrefix ++ "/chat/ws/" ++ toString chatId)
        [("user_id", userId)] := by
  let moved := { o.siteUrl (h, p) [""] with scheme := if o.secure then "wss" else "ws" }
  have hsp : moved.isSpecial = true := by
    by_cases hsec : o.secure <;> simp [moved, hsec, Url.isSpecial, Url.isSpecialScheme]
  have hfile : moved.scheme ≠ "file" := by
    by_cases hsec : o.secure <;> simp [moved, hsec]
  let parts := (((c.apiPrefix ++ "/chat/ws/" ++ toString chatId).toList.drop 1).splitOn '/').map
    String.ofList
  let placed := { moved with path := .segments parts }
  refine ⟨{ placed with query := some "" }.appendPairs [("user_id", userId)], ?_, rfl,
    ⟨rfl, rfl, ?_, Url.queryPairs_appendPairs _ rfl _ (by simp)⟩⟩
  · unfold ChatConfig.socketUrl
    rw [hc, o.parse_text, hs]
    show Except.ok ({ (((o.siteUrl (h, p) [""]).setScheme
        (if o.schemeName = "https" then "wss" else "ws")).setPath
          (c.apiPrefix ++ "/chat/ws/" ++ toString chatId)) with query := some "" }.appendPairs
        [("user_id", userId)]) = _
    rw [o.setScheme_siteUrl hs [""], Origin.setPath_plain hsp hfile rfl hp]
  · rw [Url.pathText_of_splitOn rfl, Url.slash_drop_of_plainPath hp (by simp),
      String.ofList_toList]

/-- **Every address of the client follows its origin.** For an origin `http(s)://host[:port][/]`
and the default API prefix: when the origin cannot be read, every REST address and the socket
address fail with its error. When it is read, to `u`, every endpoint's REST address is a URL
with `u`'s scheme, host and port, the prefix and the endpoint's path as its path, and a query
that form-decodes to exactly the endpoint's pairs, in order; the socket address has scheme `wss`
for an `https` origin and `ws` otherwise, the same host and port, the path
`/api/v1/chat/ws/{chatId}`, and the user's id as its one query pair. -/
theorem addresses_follow_origin {c : ChatConfig} (hc : c.origin = o.text)
    (hpre : c.apiPrefix = "/api/v1") (e : Api.Endpoint) (chatId : Int) (userId : String) :
    (∀ err, Url.parse o.text = .error err →
      Api.address c e.path e.params = .error (.invalidUrl err) ∧
        c.socketUrl chatId userId = .error (.invalidOrigin err)) ∧
    (∀ u, Url.parse o.text = .ok u →
      u.scheme = o.schemeName ∧
      (∃ rest : Url, Url.parse (c.apiUrl e.path) = .ok { rest with query := none } ∧
        Api.address c e.path e.params = .ok rest.serialize ∧
        rest.scheme = u.scheme ∧ rest.At u (c.apiPrefix ++ e.path) e.params) ∧
      ∃ sock, c.socketUrl chatId userId = .ok sock ∧
        sock.scheme = (if o.secure then "wss" else "ws") ∧
        sock.At u (c.apiPrefix ++ "/chat/ws/" ++ toString chatId) [("user_id", userId)]) := by
  have hrest : Url.plainPath (c.apiPrefix ++ e.path).toList = true :=
    hpre ▸ Api.Endpoint.plainPath_prefix_path e
  have hsock : Url.plainPath (c.apiPrefix ++ "/chat/ws/" ++ toString chatId).toList = true :=
    hpre ▸ Api.Endpoint.plainPath_prefix_socket chatId
  rw [o.parse_text]
  cases hs : o.site with
  | error err =>
    -- the origin's error is the error of every address
    refine ⟨fun err' herr => ?_, fun u hu => (by cases hu)⟩
    cases herr
    constructor
    · simp only [Api.address, o.parse_apiUrl hc hrest, hs]
      rfl
    · unfold ChatConfig.socketUrl
      rw [hc, o.parse_text, hs]
      rfl
  | ok site =>
    refine ⟨fun err herr => (by cases herr), fun u hu => ?_⟩
    cases hu
    obtain ⟨rest, hparse, haddr, hscheme, hat⟩ :=
      o.address_of_site hc hs hrest (by simp [hpre]) e.params
    exact ⟨rfl, ⟨rest, hparse, haddr, hscheme, hat⟩,
      o.socketUrl_of_site hc hs chatId userId hsock⟩

/-- An `https` origin with an IPv6 host and a port, which reads; the read marker of chat 42 and
its socket, for a user id that needs escaping. -/
theorem addresses_follow_secure_origin :
    let o : Origin :=
      { secure := true, host := "[::1]", port := some "8443", host_form := by decide,
        port_digits := by decide }
    let c := ChatConfig.withOrigin o.text
    let e := Api.Endpoint.markRead 42 "anon 1&2"
    c.origin = o.text ∧ c.apiPrefix = "/api/v1" ∧
    Url.parse o.text = .ok (o.siteUrl (.ipv6 [0, 0, 0, 0, 0, 0, 0, 1], some 8443) [""]) ∧
    (∀ err, Url.parse o.text = .error err →
      Api.address c e.path e.params = .error (.invalidUrl err) ∧
        c.socketUrl 42 "anon 1&2" = .error (.invalidOrigin err)) ∧
    (∀ u, Url.parse o.text = .ok u →
      u.scheme = o.schemeName ∧
      (∃ rest : Url, Url.parse (c.apiUrl e.path) = .ok { rest with query := none } ∧
        Api.address c e.path e.params = .ok rest.serialize ∧
        rest.scheme = u.scheme ∧ rest.At u (c.apiPrefix ++ e.path) e.params) ∧
      ∃ sock, c.socketUrl 42 "anon 1&2" = .ok sock ∧
        sock.scheme = (if o.secure then "wss" else "ws") ∧
        sock.At u (c.apiPrefix ++ "/chat/ws/" ++ toString (42 : Int)) [("user_id", "anon 1&2")]) := by
  intro o c e
  have hsite : o.site = .ok (.ipv6 [0, 0, 0, 0, 0, 0, 0, 1], some 8443) := by decide +kernel
  refine ⟨rfl, rfl, ?_, addresses_follow_origin o rfl rfl e 42 "anon 1&2"⟩
  rw [o.parse_text, hsite]
  rfl

end Origin

end MarketChat
