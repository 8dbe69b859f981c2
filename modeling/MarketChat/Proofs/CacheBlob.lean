import MarketChat.Proofs.JsonReadBack
import MarketChat.Proofs.CacheRefinement
import MarketChat.Proofs.StoreBackends
/-!
# The cache's blob holds its entries

The response cache copies its entries into the store as one blob, the compact JSON array of
its entries, and reads them back from it when it opens. This module shows that the copy is
faithful for as long as the cache is the blob's only writer and the store serves every call:
after opening and after every operation, reading the blob as the cache reads it gives exactly
the cache's entries, and a cache opened again on the store at any instant holds exactly the
entries that are live then.

Two limits of the reader bound what the blob can hold (`CacheEntry.Storable`):

* an entry's body must read back from its text (a double whose shortest text reads back
  as another double does not), and
* its arrays and objects may nest at most 125 deep. The reader allows 127 levels, and inside
  the blob the array of entries and the entry's object take two of them: a body nested 126 or
  127 deep can be cached, but the blob that holds it no longer reads, and a cache opened on it
  is empty.

The proof has three layers. The readers of the blob (`Reader.items`, `Reader.record`,
`Reader.field`) are shown to read back what `CacheEntry.toJson` and `Json.compact` wrote, each
as a bridge from written text to read value (`Reader.ReadsBackAt`). `readBlob_blobText` puts
them together. Then `BlobMirrors` is the invariant between a cache and its store, and every
operation keeps it (`BlobMirrors.perform`), because every write of the blob is a write of
`blobText` of the new entries or a removal together with emptying the cache.

Main statements: `readBlob_blobText`, `BlobMirrors.run`, `ResponseCache.blob_holds_entries`.
-/

namespace MarketChat

namespace Reader

/-- Reader `r` reads `x` back from `text` at nesting allowance `D`: from the text followed by
anything that may follow a value, it returns `x`, stops right after the text and keeps the
allowance. -/
def ReadsBackAt {α : Type} (r : Reader α) (D : Nat) (text : List Char) (x : α) : Prop :=
  ∀ (c : Cursor) (more : List Char), Delimited more → c.depth = D → c.rest = text ++ more →
    ∃ c', r c = .ok x c' ∧ c'.rest = more ∧ c'.depth = D

/-- At the end of the text the next step sees nothing. -/
theorem skipBlank_bind_of_nil {α : Type} (f : Option Char → Reader α) {c : Cursor}
    (hc : c.rest = []) : (skipBlank >>= f) c = f none c := by
  have hskip : c.skipBlank = c := Cursor.skipBlank_of_head c (by simp [hc])
  rw [skipBlank_bind, hskip, show c.peek = none by simp [Cursor.peek, hc]]

/-- A read of the whole text that ends at its end is the text's value. -/
theorem run_of_ok {α : Type} {r : Reader α} {s : String} {a : α} {c₁ : Cursor}
    (h : r (Cursor.start s) = .ok a c₁) (hend : c₁.rest = []) : run r s = .ok a := by
  unfold run
  dsimp only
  rw [bind_run_ok h, skipBlank_bind_of_nil _ hend]
  rfl

theorem enter_ok {c : Cursor} (h : 1 < c.depth) :
    enter c = .ok () { c with depth := c.depth - 1 } := by
  simp only [enter, if_neg (Nat.not_le.2 h)]

@[simp] theorem leave_run (c : Cursor) : leave c = .ok () { c with depth := c.depth + 1 } := rfl

/-! ## Items -/

section Items

variable {α : Type} {r : Reader α} {w : α → Json} {D : Nat}

/-- The items of an array after the first read back, each after its comma. -/
theorem itemsOf_tail : ∀ (xs : List α) (fuel : Nat) (acc : List α) (c : Cursor)
    (more : List Char), (∀ x ∈ xs, ReadsBackAt r D (w x).compact.toList x) →
    xs.length < fuel → c.depth = D → c.rest = Json.itemsTail (xs.map w) ++ ']' :: more →
    ∃ c', itemsOf r fuel false acc c = .ok (acc.reverse ++ xs) c' ∧ c'.rest = ']' :: more ∧
      c'.depth = D
  | _, 0, _, _, _, _, hfuel, _, _ => absurd hfuel (Nat.not_lt_zero _)
  | [], fuel + 1, acc, c, more, _, _, hd, hc => by
    have hc' : c.rest = ']' :: more := by simpa [Json.itemsTail] using hc
    refine ⟨c, ?_, hc', hd⟩
    rw [itemsOf, bind_run_ok (nextItem_close false hc'), List.append_nil]
    rfl
  | x :: xs, fuel + 1, acc, c, more, hr, hfuel, hd, hc => by
    obtain ⟨ch, t, hct, hv⟩ := compact_head (w x)
    have hc' : c.rest = ',' :: ((w x).compact.toList ++ (Json.itemsTail (xs.map w) ++ ']' :: more)) := by
      simp [hc, Json.itemsTail]
    obtain ⟨c₁, hx, hrest₁, hdepth₁⟩ := hr x List.mem_cons_self c.bump _
      (Json.delimited_itemsTail _ more) (by simp [hd]) (Cursor.bump_rest hc')
    obtain ⟨c₂, hxs, hrest₂, hdepth₂⟩ :=
      itemsOf_tail xs fuel (x :: acc) c₁ more (fun y hy => hr y (List.mem_cons_of_mem x hy))
        (by simp only [List.length_cons] at hfuel; omega) hdepth₁ hrest₁
    refine ⟨c₂, ?_, hrest₂, hdepth₂⟩
    rw [itemsOf, bind_run_ok (nextItem_comma (by rw [hc', hct, List.cons_append]) hv),
      if_pos rfl, bind_run_ok hx, hxs]
    simp

/-- The items of an array read back, from the first. -/
theorem itemsOf_compact {xs : List α} (hr : ∀ x ∈ xs, ReadsBackAt r D (w x).compact.toList x)
    {fuel : Nat} (hfuel : xs.length < fuel) {c : Cursor} {more : List Char} (hd : c.depth = D)
    (hc : c.rest = (Json.compactItems (xs.map w)).toList ++ ']' :: more) :
    ∃ c', itemsOf r fuel true [] c = .ok xs c' ∧ c'.rest = ']' :: more ∧ c'.depth = D := by
  obtain ⟨fuel, rfl⟩ : ∃ f, fuel = f + 1 := ⟨fuel - 1, by omega⟩
  cases xs with
  | nil =>
    have hc' : c.rest = ']' :: more := by simpa [Json.compactItems] using hc
    refine ⟨c, ?_, hc', hd⟩
    rw [itemsOf, bind_run_ok (nextItem_close true hc')]
    rfl
  | cons x xs =>
    obtain ⟨ch, t, hct, hv⟩ := compact_head (w x)
    have hc' : c.rest = (w x).compact.toList ++ (Json.itemsTail (xs.map w) ++ ']' :: more) := by
      rw [hc, List.map_cons, Json.compactItems_cons, List.append_assoc]
    obtain ⟨c₁, hx, hrest₁, hdepth₁⟩ :=
      hr x List.mem_cons_self c _ (Json.delimited_itemsTail _ more) hd hc'
    obtain ⟨c₂, hxs, hrest₂, hdepth₂⟩ :=
      itemsOf_tail xs fuel [x] c₁ more (fun y hy => hr y (List.mem_cons_of_mem x hy))
        (by simp only [List.length_cons] at hfuel; omega) hdepth₁ hrest₁
    refine ⟨c₂, ?_, hrest₂, hdepth₂⟩
    rw [itemsOf, bind_run_ok (nextItem_first (by rw [hc', hct, List.cons_append]) hv),
      if_pos rfl, bind_run_ok hx, hxs]
    rfl

/-- **A whole array reads back** when each item reads back inside it. The array takes one
level of the reader's allowance, so the items are read at 127. -/
theorem items_compact {xs : List α} (hr : ∀ x ∈ xs, ReadsBackAt r 127 (w x).compact.toList x) :
    run (items r) (Json.arr (xs.map w)).compact = .ok xs := by
  let c₀ := Cursor.start (Json.arr (xs.map w)).compact
  have h₀ : c₀.rest = '[' :: ((Json.compactItems (xs.map w)).toList ++ [']']) := by
    simp [c₀, Cursor.start, Json.compact]
  let c₁ : Cursor := { c₀ with depth := c₀.depth - 1 }
  have hfuel : xs.length < c₁.bump.rest.length + 1 := by
    have := Json.length_le_compactItems (xs.map w)
    simp only [c₁, Cursor.bump_rest (c := c₁) h₀, List.length_append, List.length_map] at this ⊢
    simp only [List.length_cons, List.length_nil]
    omega
  obtain ⟨c₂, hxs, hrest₂, hdepth₂⟩ :=
    itemsOf_compact hr hfuel (by simp [c₁, c₀, Cursor.start]) (Cursor.bump_rest (c := c₁) h₀)
  have hend : ({ c₂ with depth := c₂.depth + 1 } : Cursor).bump.rest = [] :=
    Cursor.bump_rest (t := []) hrest₂
  refine run_of_ok ?_ hend
  rw [items]
  refine placing_ok ?_
  rw [skipBlank_bind_of_head _ h₀ (by decide)]
  show (enter >>= fun _ => bump >>= fun _ => budget >>= fun n =>
    thenClose (itemsOf r n true [] >>= fun xs => leave >>= fun _ => pure xs) closeArray :
      Reader (List α)) c₀ = _
  rw [bind_run_ok (enter_ok (show 1 < 128 by decide)), bump_bind, bind_run_ok (budget_run _)]
  exact thenClose_ok (by rw [bind_run_ok hxs]; rfl) (closeArray_ok hrest₂)

end Items

/-! ## Fields -/

theorem ReadsBackAt.map {α β : Type} {r : Reader α} {D : Nat} {text : List Char} {x : α}
    (f : α → β) (h : ReadsBackAt r D text x) : ReadsBackAt (f <$> r) D text (f x) := by
  intro c more hmore hd hc
  obtain ⟨c', hr, hrest, hdepth⟩ := h c more hmore hd hc
  exact ⟨c', map_run_ok hr, hrest, hdepth⟩

@[simp] theorem ofExcept_ok {α : Type} (a : α) (c : Cursor) : ofExcept (.ok a) c = .ok a c := rfl

/-- A string field reads back from its quoted text. -/
theorem text_quote (expected s : String) (D : Nat) :
    ReadsBackAt (text expected) D (Json.str s).compact.toList s := by
  intro c more _ hd hc
  have hc' : c.rest = '"' :: (s.toList.flatMap Json.escapeChar ++ '"' :: more) := by
    simp [hc, Json.compact, quote_toList]
  obtain ⟨c', hstr, hrest, hdepth⟩ := string_quote s c.bump more (Cursor.bump_rest hc')
  refine ⟨c', ?_, hrest, by simp [hdepth, hd]⟩
  rw [text]
  refine placing_ok ?_
  rw [skipBlank_bind_of_head _ hc' (by decide)]
  show (bump >>= fun _ => string : Reader String) c = _
  rw [bump_bind]
  exact hstr

/-- A 64-bit integer field reads back from its decimal text. -/
theorem integer_int64 {i : Int} (hlo : -2 ^ 63 ≤ i) (hhi : i ≤ maxMillis) (D : Nat) :
    ReadsBackAt (integer .int64) D (Json.ofInt i).compact.toList i := by
  intro c more hmore hd hc
  rw [integer]
  by_cases hneg : i < 0
  · have hc' : c.rest = '-' :: ((Nat.repr i.natAbs).toList ++ more) := by
      simpa [Json.ofInt, Int.not_le.2 hneg, Json.compact, JsonNumber.text] using hc
    obtain ⟨c', hnum, hrest, hdepth⟩ := number_negInt hlo hneg (Cursor.bump_rest hc') hmore
    refine ⟨c', placing_ok ?_, hrest, by simp [hdepth, hd]⟩
    rw [skipBlank_bind_of_head _ hc' (by decide)]
    show (bump >>= fun _ => number false >>= fun n => ofExcept (fitInteger .int64 n) :
      Reader Int) c = _
    rw [bump_bind, bind_run_ok hnum]
    have hlo' : (-9223372036854775808 : Int) ≤ i := by norm_num at hlo; exact hlo
    simp only [fitInteger, FieldRule.bounds, hlo', if_true]
    rfl
  · have hk : i.toNat ≤ natLimit := by unfold natLimit maxMillis at *; omega
    have hc' : c.rest = (Nat.repr i.toNat).toList ++ more := by
      simpa [Json.ofInt, Int.not_lt.1 hneg, Json.compact, JsonNumber.text] using hc
    obtain ⟨ch, t, hct⟩ := repr_cons i.toNat
    have hdigit : ch.isDigit = true := @digits_of_mem_repr i.toNat ch (by simp [hct])
    have hc₂ : c.rest = ch :: (t ++ more) := by rw [hc', hct, List.cons_append]
    obtain ⟨c', hnum, hrest, hdepth⟩ := number_nat hk hc' hmore
    refine ⟨c', placing_ok ?_, hrest, by rw [hdepth, hd]⟩
    rw [skipBlank_bind_of_head _ hc₂ (NumberChar.not_blank (.inl hdigit))]
    have hminus : ch ≠ '-' := by
      rintro rfl
      exact absurd hdigit (by decide)
    erw [integer.match_1.eq_3 _ _ _ _ _ hminus]
    rw [if_pos hdigit, bind_run_ok hnum]
    have hfit : i ≤ 9223372036854775807 := hhi
    simp only [fitInteger, FieldRule.bounds, hfit, if_true,
      Int.toNat_of_nonneg (Int.not_lt.1 hneg)]
    rfl

theorem field_text (s : String) (D : Nat) :
    ReadsBackAt (field .text) D (Json.str s).compact.toList (.text s) :=
  (text_quote "a string" s D).map _

theorem field_any {j : Json} (hj : j.ReadsBack) {D : Nat} (hd : j.nesting < D) :
    ReadsBackAt (field .any) D j.compact.toList (.json j) := by
  refine ReadsBackAt.map FieldValue.json ?_
  intro c more hmore hdepth hc
  obtain ⟨c', hval, hrest, hdepth'⟩ := value_compact hj (hdepth ▸ hd) hc hmore
  exact ⟨c', hval, hrest, hdepth'.trans hdepth⟩

theorem field_int64 {i : Int} (hlo : -2 ^ 63 ≤ i) (hhi : i ≤ maxMillis) (D : Nat) :
    ReadsBackAt (field .int64) D (Json.ofInt i).compact.toList (.int i) :=
  (integer_int64 hlo hhi D).map _

/-! ## Records -/

/-- One member of a record read: the next member is there, its key names a field not yet
found, and that field's reader reads the member. -/
theorem recordMembers_step {fields : List (String × FieldRule × Option FieldValue)} {fuel : Nat}
    {first : Bool} {found found' : List (Option FieldValue)} {c c' c₁ c₂ : Cursor} {k : String}
    {r : Reader (List (Option FieldValue))}
    (hnext : nextMember first c = .ok true c') (hkey : key c' = .ok k c₁)
    (hm : memberField k fields found = some r) (hr : r c₁ = .ok found' c₂) :
    recordMembers fields (fuel + 1) first found c = recordMembers fields fuel false found' c₂ := by
  rw [recordMembers, bind_run_ok hnext, if_pos rfl, bind_run_ok hkey]
  simp only [hm]
  exact bind_run_ok hr

/-- The colon and value of a member, read into the first field not yet found. -/
theorem memberBody_ok {rule : FieldRule} (fs : List (Option FieldValue)) {D : Nat} {v : Json}
    {fv : FieldValue} (hfield : ReadsBackAt (field rule) D v.compact.toList fv) {c : Cursor}
    {more : List Char} (hmore : Delimited more) (hd : c.depth = D)
    (hc : c.rest = ':' :: (v.compact.toList ++ more)) :
    ∃ c', (colon >>= fun _ => field rule >>= fun v => pure (some v :: fs) :
      Reader (List (Option FieldValue))) c = .ok (some fv :: fs) c' ∧ c'.rest = more ∧
        c'.depth = D := by
  obtain ⟨c', hf, hrest, hdepth⟩ :=
    hfield c.bump more hmore (by simp [hd]) (Cursor.bump_rest hc)
  exact ⟨c', by rw [bind_run_ok (colon_ok hc), bind_run_ok hf]; rfl, hrest, hdepth⟩

end Reader

/-- An entry the blob can hold: its body reads back and nests at most 125 deep, and its expiry
is a 64-bit instant. -/
def CacheEntry.Storable (e : CacheEntry) : Prop :=
  e.data.ReadsBack ∧ e.data.nesting ≤ 125 ∧ -2 ^ 63 ≤ e.expiresAt ∧ e.expiresAt ≤ maxMillis

namespace Reader

/-- The members of an entry's object, in the order `CacheEntry.toJson` writes them. -/
def entryMembers (e : CacheEntry) : List (String × Json) :=
  [("key", .str e.key), ("data", e.data), ("expires_at", Json.ofInt e.expiresAt)]

theorem entryMembers_text (e : CacheEntry) :
    e.toJson.compact.toList = '{' :: (Json.compactMembers (entryMembers e)).toList ++ ['}'] := by
  simp [CacheEntry.toJson, Json.compact, entryMembers]

/-- **The members of an entry read back into its three fields**, at the allowance left inside
the entry's object. -/
theorem recordMembers_entry {e : CacheEntry} (he : e.Storable) {fuel : Nat} {c : Cursor}
    {more : List Char} (hd : c.depth = 126)
    (hc : c.rest = (Json.compactMembers (entryMembers e)).toList ++ '}' :: more) :
    ∃ c', recordMembers CacheEntry.shape.fields (fuel + 4) true [none, none, none] c =
        .ok [some (.text e.key), some (.json e.data), some (.int e.expiresAt)] c' ∧
      c'.rest = '}' :: more ∧ c'.depth = 126 := by
  obtain ⟨hdata, hnest, hlo, hhi⟩ := he
  -- the rest after each member
  set rest₃ : List Char := '}' :: more
  set rest₂ : List Char := ',' :: (Json.memberText ("expires_at", Json.ofInt e.expiresAt) ++ rest₃)
  set rest₁ : List Char := ',' :: (Json.memberText ("data", e.data) ++ rest₂)
  have hc₁ : c.rest = Json.memberText ("key", .str e.key) ++ rest₁ := by
    simp [hc, entryMembers, Json.compactMembers_cons, Json.membersTail, rest₁, rest₂, rest₃]
  have hdel : ∀ t, Delimited (',' :: t) := fun t => by simp [Delimited]
  -- the key
  obtain ⟨tq₁, hq₁⟩ := Json.memberText_quote ("key", .str e.key)
  obtain ⟨c₁, hkey₁, hrest₁, hdepth₁⟩ := key_quote hc₁
  obtain ⟨c₂, hbody₁, hrest₂, hdepth₂⟩ := memberBody_ok [none, none] (field_text e.key 126)
    (hdel _) (by rw [hdepth₁, hd]) hrest₁
  -- the body
  obtain ⟨tq₂, hq₂⟩ := Json.memberText_quote ("data", e.data)
  have hc₂ : c₂.rest = ',' :: '"' :: (tq₂ ++ rest₂) := by rw [hrest₂, hq₂, List.cons_append]
  obtain ⟨c₃, hkey₂, hrest₃, hdepth₃⟩ :=
    @key_quote "data" e.data c₂.bump rest₂
      (by rw [Cursor.bump_rest hc₂, hq₂, List.cons_append])
  obtain ⟨c₄, hbody₂, hrest₄, hdepth₄⟩ := memberBody_ok [none]
    (field_any hdata (show e.data.nesting < 126 by omega)) (hdel _)
    (by simp [hdepth₃, hdepth₂]) hrest₃
  -- the expiry
  obtain ⟨tq₃, hq₃⟩ := Json.memberText_quote ("expires_at", Json.ofInt e.expiresAt)
  have hc₄ : c₄.rest = ',' :: '"' :: (tq₃ ++ rest₃) := by rw [hrest₄, hq₃, List.cons_append]
  obtain ⟨c₅, hkey₃, hrest₅, hdepth₅⟩ :=
    @key_quote "expires_at" (Json.ofInt e.expiresAt) c₄.bump rest₃
      (by rw [Cursor.bump_rest hc₄, hq₃, List.cons_append])
  obtain ⟨c₆, hbody₃, hrest₆, hdepth₆⟩ := memberBody_ok []
    (field_int64 hlo hhi 126) (by simp [Delimited, rest₃])
    (by simp [hdepth₅, hdepth₄]) hrest₅
  refine ⟨c₆, ?_, hrest₆, hdepth₆⟩
  rw [recordMembers_step (nextMember_first (by rw [hc₁, hq₁, List.cons_append])) hkey₁ rfl hbody₁,
    recordMembers_step (nextMember_comma hc₂) hkey₂ rfl (map_run_ok hbody₂),
    recordMembers_step (nextMember_comma hc₄) hkey₃ rfl (map_run_ok (map_run_ok hbody₃)),
    recordMembers, bind_run_ok (nextMember_close false hrest₆)]
  rfl

/-- **An entry reads back from its object's text** inside the blob's array: the object takes
one more level of the allowance, and its body is read at 126. -/
theorem read_toJson {e : CacheEntry} (he : e.Storable) :
    ReadsBackAt CacheEntry.read 127 e.toJson.compact.toList e := by
  intro c more _ hd hc
  have hc' : c.rest = '{' :: ((Json.compactMembers (entryMembers e)).toList ++ '}' :: more) := by
    rw [hc, entryMembers_text]
    simp
  let c₁ : Cursor := { c with depth := c.depth - 1 }
  obtain ⟨m, hm⟩ : ∃ m, c₁.bump.rest.length + 1 = m + 4 := by
    refine ⟨c₁.bump.rest.length - 3, ?_⟩
    have hlen : 3 ≤ c₁.bump.rest.length := by
      rw [Cursor.bump_rest (c := c₁) hc', entryMembers]
      simp [Json.compactMembers_cons, Json.membersTail]
      omega
    omega
  obtain ⟨c₂, hmembers, hrest₂, hdepth₂⟩ :=
    @recordMembers_entry _ he m _ _ (by simp [c₁, hd]) (Cursor.bump_rest (c := c₁) hc')
  have hrecord : record CacheEntry.shape c =
      .ok [.text e.key, .json e.data, .int e.expiresAt] { c₂ with depth := c₂.depth + 1 }.bump := by
    rw [record]
    refine placing_ok ?_
    rw [skipBlank_bind_of_head _ hc' (by decide)]
    show (enter >>= fun _ => bump >>= fun _ => budget >>= fun n =>
      thenClose (recordMembers CacheEntry.shape.fields n true [none, none, none] >>= fun found =>
        leave >>= fun _ => ofExcept (fillDefaults CacheEntry.shape.fields found)) closeObject :
          Reader (List FieldValue)) c = _
    rw [bind_run_ok (enter_ok (by omega)), bump_bind, bind_run_ok (budget_run _), hm]
    exact thenClose_ok (by rw [bind_run_ok hmembers]; rfl) (closeObject_ok hrest₂)
  refine ⟨_, ?_, Cursor.bump_rest (c := { c₂ with depth := c₂.depth + 1 }) hrest₂,
    by simp [hdepth₂]⟩
  rw [CacheEntry.read, map_run_ok hrecord]
  rfl

end Reader

/-! ## Store facts -/

namespace KvStore

theorem invariant_set {m m' : KvStore} {k v : String} (h : m.Invariant) (hs : m.set k v = .ok m') :
    m'.Invariant := by
  simpa [call, hs] using invariant_call h (.set k v)

theorem invariant_remove {m m' : KvStore} {k : String} {b : Bool} (h : m.Invariant)
    (hr : m.remove k = .ok (b, m')) : m'.Invariant := by
  simpa [call, hr] using invariant_call h (.remove k)

/-- A store that serves every call refuses a write only for lack of space. -/
theorem set_error_quota {m : KvStore} {k v : String} {e : StoreError} (hserv : m.outage = .none)
    (h : m.set k v = .error e) : e.isQuotaExceeded = true := by
  unfold set at h
  rw [if_neg (by simp [hserv])] at h
  split at h
  · split at h
    · cases h
      rfl
    · cases h
  · cases h

theorem remove_of_serving {m : KvStore} (hserv : m.outage = .none) (k : String) :
    m.remove k = .ok ((lookup m.entries k).isSome, { m with entries := m.entries.filter (·.1 ≠ k) }) := by
  simp [remove, hserv]

theorem get_of_serving {m : KvStore} (hserv : m.outage = .none) (k : String) :
    m.get k = .ok (lookup m.entries k) := by
  simp [get, hserv]

theorem lookup_insertSorted_self {l : List (String × String)} (ha : KeysAscend l) (k v : String) :
    lookup (insertSorted k v l) k = some v := by
  rw [lookup_perm (insertSorted_perm ha) (keysAscend_insertSorted ha).keysUnique, lookup_cons,
    if_pos rfl]

theorem lookup_filter_self (l : List (String × String)) (k : String) :
    lookup (l.filter (·.1 ≠ k)) k = none := by
  simp [lookup, List.find?_eq_none]

/-- With ascending keys, the bytes in use are what writing the present value again needs. -/
theorem bytesUsed_eq_writeNeeds {l : List (String × String)} (ha : KeysAscend l) {k v : String}
    (hl : lookup l k = some v) : bytesUsed l = writeNeeds l k v := by
  have hl' : insertSorted k v l = l := by
    induction l with
    | nil => simp [lookup] at hl
    | cons e rest ih =>
      obtain ⟨k', v'⟩ := e
      obtain ⟨hlt, hrest⟩ := List.pairwise_cons.1 ha
      rw [lookup_cons] at hl
      by_cases hk : k' = k
      · subst hk
        simp only [if_true, Option.some.injEq] at hl
        subst hl
        simp [insertSorted]
      · rw [if_neg hk] at hl
        have hnlt : ¬k < k' := by
          obtain ⟨e, he, hek⟩ := (lookup_isSome_iff rest k).1 (by rw [hl]; rfl)
          exact fun h => lt_asymm h (hek ▸ hlt e he)
        simp [insertSorted, hnlt, Ne.symm hk, ih hrest hl]
  rw [← bytesUsed_of_written (insertSorted_perm (k := k) (v := v) ha), hl']

end KvStore

/-! ## The blob read back -/

namespace ResponseCache

/-- An entry goes last among entries whose keys are all smaller. -/
theorem insertEntry_of_lt {e : CacheEntry} :
    ∀ {acc : List CacheEntry}, (∀ x ∈ acc, x.key < e.key) → insertEntry e acc = acc ++ [e]
  | [], _ => rfl
  | x :: rest, h => by
    have hlt : x.key < e.key := h x List.mem_cons_self
    rw [insertEntry, if_neg (lt_asymm hlt), if_neg (ne_of_gt hlt),
      insertEntry_of_lt fun y hy => h y (List.mem_cons_of_mem _ hy)]
    rfl

/-- Entries sorted by key, inserted one by one after smaller keys, come out as they were. -/
theorem foldl_insertEntry_of_sorted :
    ∀ (es acc : List CacheEntry), KeysSorted (acc ++ es) →
      es.foldl (fun acc e => insertEntry e acc) acc = acc ++ es
  | [], acc, _ => by simp
  | e :: rest, acc, hs => by
    have hlt : ∀ x ∈ acc, x.key < e.key := fun x hx =>
      (List.pairwise_append.1 hs).2.2 x hx e List.mem_cons_self
    rw [List.foldl_cons, insertEntry_of_lt hlt,
      foldl_insertEntry_of_sorted rest _ (by simpa using hs)]
    simp

/-- **The blob of storable entries reads back as those entries.** -/
theorem readBlob_blobText {es : List CacheEntry} (hst : ∀ e ∈ es, e.Storable) :
    readBlob (blobText es) = some es := by
  have hrun : Reader.run (Reader.items CacheEntry.read)
      (Json.arr (es.map CacheEntry.toJson)).compact = .ok es :=
    Reader.items_compact fun e he => Reader.read_toJson (hst e he)
  unfold readBlob blobText
  rw [hrun]

/-- What the cache reads from a store holding the blob of sorted storable entries: those
entries. -/
theorem storedEntries_of_blob {store : KvStore} {es : List CacheEntry}
    (hserv : store.outage = .none)
    (hblob : KvStore.lookup store.entries cacheBlobKey = some (blobText es))
    (hs : KeysSorted es) (hst : ∀ e ∈ es, e.Storable) : storedEntries store = es := by
  unfold storedEntries
  rw [KvStore.get_of_serving hserv, hblob]
  simp only [readBlob_blobText hst]
  exact foldl_insertEntry_of_sorted es [] hs

/-- What the cache reads from a store without a blob: nothing. -/
theorem storedEntries_of_absent {store : KvStore} (hserv : store.outage = .none)
    (hblob : KvStore.lookup store.entries cacheBlobKey = none) : storedEntries store = [] := by
  unfold storedEntries
  rw [KvStore.get_of_serving hserv, hblob]

end ResponseCache

/-! ## A smaller blob takes no more space -/

theorem compactItems_cons_size (a : Json) (l : List Json) :
    (Json.compactItems (a :: l)).utf8ByteSize =
      a.compact.utf8ByteSize + if l = [] then 0 else 1 + (Json.compactItems l).utf8ByteSize := by
  cases l with
  | nil => simp [Json.compactItems]
  | cons x rest =>
    simp only [Json.compactItems, String.utf8ByteSize_append, reduceCtorEq, if_false]
    rw [← Json.compactItems]
    have hcomma : ",".utf8ByteSize = 1 := rfl
    omega

/-- Dropping items never lengthens the items' text. -/
theorem compactItems_size_le {l' l : List Json} (h : l'.Sublist l) :
    (Json.compactItems l').utf8ByteSize ≤ (Json.compactItems l).utf8ByteSize := by
  induction h with
  | slnil => exact Nat.le_refl _
  | cons a h ih =>
    rename_i l₁ l₂
    refine ih.trans ?_
    rw [compactItems_cons_size]
    split_ifs with hl
    · subst hl
      simp [Json.compactItems]
    · omega
  | cons_cons a h ih =>
    rename_i l₁ l₂
    rw [compactItems_cons_size, compactItems_cons_size]
    by_cases h₁ : l₁ = []
    · simp [h₁]
    · have h₂ : l₂ ≠ [] := by
        rintro rfl
        exact h₁ (List.sublist_nil.1 h)
      simp only [h₁, h₂, if_false]
      omega

/-- The blob of some of the entries takes no more bytes than the blob of all of them. -/
theorem blobText_filter_size (es : List CacheEntry) (p : CacheEntry → Bool) :
    (ResponseCache.blobText (es.filter p)).utf8ByteSize ≤
      (ResponseCache.blobText es).utf8ByteSize := by
  have h := compactItems_size_le ((List.filter_sublist (p := p) (l := es)).map CacheEntry.toJson)
  simp only [ResponseCache.blobText, Json.compact, String.utf8ByteSize_append]
  omega

/-! ## The invariant -/

/-- An operation whose body the blob can hold: a body it stores reads back and nests at most
125 deep, and it is stored at a 64-bit instant. -/
def CacheOp.Storable : CacheOp → Int → Prop
  | .set _ v, now | .setWithTtl _ v _, now => v.ReadsBack ∧ v.nesting ≤ 125 ∧ -2 ^ 63 ≤ now
  | _, _ => True

/-- The store mirrors the cache: it serves every call and keeps its own invariant, and its blob
is the text of the cache's entries, which are sorted and storable, or there is no blob and no
entry. -/
structure BlobMirrors (c : ResponseCache) (store : KvStore) : Prop where
  sorted : KeysSorted c.entries
  storable : ∀ e ∈ c.entries, e.Storable
  blob : KvStore.lookup store.entries cacheBlobKey = some (ResponseCache.blobText c.entries) ∨
    KvStore.lookup store.entries cacheBlobKey = none ∧ c.entries = []
  serving : store.outage = .none
  healthy : store.Invariant

namespace BlobMirrors

variable {c : ResponseCache} {store : KvStore}

/-- **The cache reads back from the store exactly its entries.** -/
theorem storedEntries_eq (h : BlobMirrors c store) :
    ResponseCache.storedEntries store = c.entries := by
  rcases h.blob with hb | ⟨hb, he⟩
  · exact ResponseCache.storedEntries_of_blob h.serving hb h.sorted h.storable
  · rw [ResponseCache.storedEntries_of_absent h.serving hb, he]

/-- Only the cache's entries matter. -/
theorem of_entries (h : BlobMirrors c store) (c' : ResponseCache) (he : c'.entries = c.entries) :
    BlobMirrors c' store :=
  ⟨he ▸ h.sorted, he ▸ h.storable, he ▸ h.blob, h.serving, h.healthy⟩

/-- **A write of sorted, storable entries keeps the store mirroring the cache**: the store takes
their blob, or refuses it for lack of space, and then the blob is removed and the cache
emptied. -/
theorem persist (h : BlobMirrors c store) {es : List CacheEntry} (hs : KeysSorted es)
    (hst : ∀ e ∈ es, e.Storable) (c' : ResponseCache) :
    BlobMirrors { c' with entries := (ResponseCache.persist es store).1 }
      (ResponseCache.persist es store).2 := by
  unfold ResponseCache.persist
  cases hset : store.set cacheBlobKey (ResponseCache.blobText es) with
  | ok s =>
    have hs' := KvStore.set_ok hset
    refine ⟨hs, hst, .inl ?_, ?_, KvStore.invariant_set h.healthy hset⟩
    · rw [hs']
      exact KvStore.lookup_insertSorted_self h.healthy.1 _ _
    · rw [hs']
      exact h.serving
  | error e =>
    simp only [KvStore.set_error_quota h.serving hset, if_true,
      KvStore.remove_of_serving h.serving]
    exact ⟨List.Pairwise.nil, by simp, .inr ⟨KvStore.lookup_filter_self _ _, rfl⟩, h.serving,
      KvStore.invariant_remove h.healthy (KvStore.remove_of_serving h.serving _)⟩

end BlobMirrors

namespace BlobMirrors

variable {c : ResponseCache} {store : KvStore}

/-- Some of the entries are sorted and storable when all of them are. -/
theorem persist_filter (h : BlobMirrors c store) (p : CacheEntry → Bool) (c' : ResponseCache) :
    BlobMirrors { c' with entries := (ResponseCache.persist (c.entries.filter p) store).1 }
      (ResponseCache.persist (c.entries.filter p) store).2 :=
  h.persist (keysSorted_filter h.sorted p) (fun e he => h.storable e (List.mem_of_mem_filter he)) c'

/-- An entry stored at a 64-bit instant has a 64-bit expiry. -/
theorem storable_setWithTtl {now : Int} {v : Json} (hv : v.ReadsBack) (hn : v.nesting ≤ 125)
    (hnow : -2 ^ 63 ≤ now) (k : String) (ttl : Nat) :
    CacheEntry.Storable { key := k, data := v, expiresAt := addMillis now (min ttl maxMillis.toNat) } := by
  refine ⟨hv, hn, ?_, min_le_right _ _⟩
  simp only [addMillis, maxMillis, le_min_iff]
  omega

theorem setWithTtl (h : BlobMirrors c store) {now : Int} {k : String} {v : Json} {ttl : Nat}
    (hv : v.ReadsBack) (hn : v.nesting ≤ 125) (hnow : -2 ^ 63 ≤ now) :
    BlobMirrors (c.setWithTtl store now k v ttl).1 (c.setWithTtl store now k v ttl).2 := by
  refine h.persist (keysSorted_insertEntry _ h.sorted) (fun e he => ?_) c
  rcases mem_insertEntry he with rfl | he
  · exact storable_setWithTtl hv hn hnow k ttl
  · exact h.storable e he

/-- **Every operation keeps the store mirroring the cache.** -/
theorem perform (h : BlobMirrors c store) {now : Int} {op : CacheOp} (hop : op.Storable now) :
    BlobMirrors (c.perform store now op).2.1 (c.perform store now op).2.2 := by
  cases op with
  | get k =>
    simp only [ResponseCache.perform, ResponseCache.get]
    split
    · exact h
    · split
      · exact h
      · exact h.persist_filter _ c
  | set k v => exact h.setWithTtl hop.1 hop.2.1 hop.2.2
  | setWithTtl k v ttl => exact h.setWithTtl hop.1 hop.2.1 hop.2.2
  | delete k =>
    simp only [ResponseCache.perform, ResponseCache.delete]
    split
    · exact h.persist_filter _ c
    · exact h
  | clear => exact h.persist List.Pairwise.nil (by simp) c
  | clearUserData =>
    simp only [ResponseCache.perform, ResponseCache.clearUserData]
    split
    · exact h.persist_filter _ c
    · exact h
  | cleanExpired =>
    simp only [ResponseCache.perform, ResponseCache.cleanExpired]
    split
    · exact h.persist_filter _ c
    · exact h
  | len => exact h

/-- Every run of operations keeps the store mirroring the cache. -/
theorem run (h : BlobMirrors c store) {ops : List (Int × CacheOp)}
    (hops : ∀ step ∈ ops, step.2.Storable step.1) :
    BlobMirrors (c.run store ops).1 (c.run store ops).2 := by
  induction ops generalizing c store with
  | nil => exact h
  | cons step rest ih =>
    exact ih (h.perform (hops step List.mem_cons_self))
      fun s hs => hops s (List.mem_cons_of_mem _ hs)

/-- Opening a cache on a store that mirrors entries reads them and sweeps the expired ones,
keeping the store mirroring the opened cache. -/
theorem ofStore (h : BlobMirrors c store) (now : Int) (ttl : Nat) :
    BlobMirrors (ResponseCache.ofStore store now ttl).1 (ResponseCache.ofStore store now ttl).2 :=
  (h.of_entries { entries := ResponseCache.storedEntries store, defaultTtl := ttl }
    h.storedEntries_eq).perform (show CacheOp.Storable .cleanExpired now from trivial)

/-- **A cache opened again holds exactly the entries live then.** The sweep of the opening
writes the blob of the live entries, which is no longer than the blob in the store, so the
store takes it. -/
theorem ofStore_entries (h : BlobMirrors c store) (t : Int) (ttl : Nat) :
    (ResponseCache.ofStore store t ttl).1.entries = c.entries.filter (·.isLive t) := by
  simp only [ResponseCache.ofStore, ResponseCache.cleanExpired, h.storedEntries_eq]
  split
  · next hremoved =>
    -- something expired, so there are entries and the store holds their blob
    have hne : c.entries ≠ [] := by
      rintro hnil
      simp [hnil] at hremoved
    have hblob : KvStore.lookup store.entries cacheBlobKey =
        some (ResponseCache.blobText c.entries) := by
      rcases h.blob with hb | ⟨-, hnil⟩
      · exact hb
      · exact absurd hnil hne
    have hfits : ∀ limit, store.quota = some limit →
        store.needed cacheBlobKey (ResponseCache.blobText (c.entries.filter (·.isLive t))) ≤ limit := by
      intro limit hq
      have hused := KvStore.bytesUsed_eq_writeNeeds h.healthy.1 hblob
      have hsize := blobText_filter_size c.entries (·.isLive t)
      have hwithin := h.healthy.2 limit hq
      simp only [KvStore.needed_eq_writeNeeds, writeNeeds] at hused ⊢
      omega
    have hset : ∃ s, store.set cacheBlobKey
        (ResponseCache.blobText (c.entries.filter (·.isLive t))) = .ok s := by
      unfold KvStore.set
      rw [if_neg (by simp [h.serving])]
      split
      · next limit hq => exact ⟨_, if_neg (Nat.not_lt.2 (hfits limit hq))⟩
      · exact ⟨_, rfl⟩
    obtain ⟨s, hs⟩ := hset
    simp [ResponseCache.persist, hs]
  · next hkept =>
    -- nothing expired: every entry is live
    have hlen : (c.entries.filter (·.isLive t)).length = c.entries.length := by
      have := List.length_filter_le (·.isLive t) c.entries
      omega
    exact (List.filter_eq_self.2 (List.length_filter_eq_length_iff.1 hlen)).symm

end BlobMirrors

/-- An empty store mirrors the empty cache. -/
theorem BlobMirrors.empty (q : Option Nat) : BlobMirrors {} { quota := q } :=
  ⟨List.Pairwise.nil, by simp, .inr ⟨rfl, rfl⟩, rfl, KvStore.invariant_empty q .none⟩

/-- **The blob holds the cache's entries.** Open a cache on a store that mirrors some cache
(so its blob, if any, is a cache's own writing) and serves every call, then run any operations,
each at any clock reading, as long as every body stored reads back, nests at most 125 deep and
is stored at a 64-bit instant. Then the cache reads back from the store exactly its entries,
and a cache opened on the store at any instant `t` holds exactly the entries whose expiry is
not before `t`, with their bodies and expiries. -/
theorem ResponseCache.blob_holds_entries {c₀ : ResponseCache} {store₀ : KvStore}
    (h₀ : BlobMirrors c₀ store₀) (opened : Int) (ttl : Nat) (ops : List (Int × CacheOp))
    (hops : ∀ step ∈ ops, step.2.Storable step.1) :
    let opening := ResponseCache.ofStore store₀ opened ttl
    let after := opening.1.run opening.2 ops
    ResponseCache.storedEntries after.2 = after.1.entries ∧
      ∀ t ttl', (ResponseCache.ofStore after.2 t ttl').1.entries =
        after.1.entries.filter (·.isLive t) := by
  intro opening after
  have h : BlobMirrors after.1 after.2 := (h₀.ofStore opened ttl).run hops
  exact ⟨h.storedEntries_eq, fun t ttl' => h.ofStore_entries t ttl'⟩

/-- One body cached in an empty store is read back, and kept by a later opening while live. -/
theorem ResponseCache.blob_holds_one_entry :
    BlobMirrors {} { quota := none } ∧
      (∀ step ∈ [((0 : Int), CacheOp.set "GET:/a" (.num (.nat 1)))], step.2.Storable step.1) ∧
      let opening := ResponseCache.ofStore { quota := none } 0 defaultCacheTtl
      let after := opening.1.run opening.2 [(0, CacheOp.set "GET:/a" (.num (.nat 1)))]
      ResponseCache.storedEntries after.2 = after.1.entries ∧
        ∀ t ttl', (ResponseCache.ofStore after.2 t ttl').1.entries =
          after.1.entries.filter (·.isLive t) := by
  have hops : ∀ step ∈ [((0 : Int), CacheOp.set "GET:/a" (.num (.nat 1)))],
      step.2.Storable step.1 := by
    simp [CacheOp.Storable, Json.ReadsBack, JsonNumber.ReadsBack, Json.nesting, Reader.natLimit]
  exact ⟨BlobMirrors.empty none, hops,
    ResponseCache.blob_holds_entries (BlobMirrors.empty none) 0 defaultCacheTtl _ hops⟩

end MarketChat
