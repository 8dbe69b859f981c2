import MarketChat.Store.Sqlite
import Mathlib
/-!
# The SQLite-backed store mirrors the memory store

Both backends of the store interface keep string values under string keys within an optional
byte quota, and apply one quota rule (`WriteFollowsQuota`): a write needs the bytes of every
other entry plus its own key and value, and it is refused, naming what it needs and the limit,
exactly when that exceeds the limit. They keep their entries differently: the memory store
sorted by key, the table in the order its rows were first inserted, with an overwrite updating
its row in place.

`Mirrors s m` says that a SQLite-backed store and a memory store in service hold the same
entries, in some order, within the same quota. Each call keeps it and gets the same answer
from both, up to the order of listed keys (`Mirrors.call`), so every sequence of calls does
(`Mirrors.runCalls`). The memory store keeps its keys ascending and its entries within its
quota after every call (`KvStore.invariant_call`), and through `Mirrors` so does the table.

Main statement: `SqliteStore.mirrors_memory_store`.
-/

namespace MarketChat

/-! ## Entries -/

/-- Keys that strictly ascend, as the memory store keeps them. -/
def KeysAscend (l : List (String × String)) : Prop := l.Pairwise (·.1 < ·.1)

/-- Keys without repeats, as a table whose primary key is the key holds them. -/
def KeysUnique (l : List (String × String)) : Prop := (l.map (·.1)).Nodup

/-- The bytes entries take against the quota. -/
def bytesUsed (l : List (String × String)) : Nat := (l.map KvStore.entryBytes).sum

/-- The bytes a write of `v` under `k` needs on entries `l`: every other entry, then its own
key and value. -/
def writeNeeds (l : List (String × String)) (k v : String) : Nat :=
  bytesUsed (l.filter (·.1 ≠ k)) + k.utf8ByteSize + v.utf8ByteSize

/-- Entries within an optional quota. -/
def WithinQuota (q : Option Nat) (l : List (String × String)) : Prop :=
  ∀ limit, q = some limit → bytesUsed l ≤ limit

theorem KeysAscend.keysUnique {l : List (String × String)} (h : KeysAscend l) : KeysUnique l :=
  List.nodup_iff_pairwise_ne.2 (List.pairwise_map.2 (h.imp ne_of_lt))

theorem KeysUnique.of_perm {l l' : List (String × String)} (h : l.Perm l') (hu : KeysUnique l') :
    KeysUnique l :=
  (h.map _).nodup_iff.2 hu

@[simp] theorem bytesUsed_cons (e : String × String) (l : List (String × String)) :
    bytesUsed (e :: l) = KvStore.entryBytes e + bytesUsed l := by
  simp [bytesUsed]

theorem bytesUsed_perm {l l' : List (String × String)} (h : l.Perm l') :
    bytesUsed l = bytesUsed l' :=
  (h.map _).sum_nat

theorem bytesUsed_filter_le (l : List (String × String)) (p : String × String → Bool) :
    bytesUsed (l.filter p) ≤ bytesUsed l :=
  ((List.filter_sublist).map _).sum_le_sum fun _ _ => Nat.zero_le _

theorem writeNeeds_perm {l l' : List (String × String)} (h : l.Perm l') (k v : String) :
    writeNeeds l k v = writeNeeds l' k v := by
  simp only [writeNeeds, bytesUsed_perm (h.filter _)]

/-- Entries that hold `v` under `k` and every other entry of `l` take exactly what the write
of `v` under `k` needed. -/
theorem bytesUsed_of_written {l l' : List (String × String)} {k v : String}
    (h : l'.Perm ((k, v) :: l.filter (·.1 ≠ k))) : bytesUsed l' = writeNeeds l k v := by
  simp only [bytesUsed_perm h, bytesUsed_cons, writeNeeds, KvStore.entryBytes]
  omega

/-! ## Lookup by key -/

namespace KvStore

theorem lookup_cons (e : String × String) (l : List (String × String)) (k : String) :
    lookup (e :: l) k = if e.1 = k then some e.2 else lookup l k := by
  by_cases h : e.1 = k <;> simp [lookup, h]

/-- Where keys are unique, the order of the entries does not matter to a lookup. -/
theorem lookup_perm {l l' : List (String × String)} (h : l.Perm l') (hu : KeysUnique l)
    (k : String) : lookup l k = lookup l' k := by
  induction h with
  | nil => rfl
  | cons e _ ih =>
    rw [lookup_cons, lookup_cons, ih (List.nodup_cons.1 hu).2]
  | swap e₁ e₂ l =>
    -- two heads under different keys: at most one of them is `k`'s
    have hne : e₂.1 ≠ e₁.1 := fun heq =>
      (List.nodup_cons.1 hu).1 (List.mem_map.2 ⟨e₁, List.mem_cons_self .., heq.symm⟩)
    rw [lookup_cons, lookup_cons, lookup_cons, lookup_cons]
    by_cases h₁ : e₁.1 = k <;> by_cases h₂ : e₂.1 = k
    · exact absurd (h₂.trans h₁.symm) hne
    all_goals simp [h₁, h₂]
  | trans h₁ _ ih₁ ih₂ => rw [ih₁ hu, ih₂ (KeysUnique.of_perm h₁.symm hu)]

theorem lookup_isSome_iff (l : List (String × String)) (k : String) :
    (lookup l k).isSome ↔ ∃ e ∈ l, e.1 = k := by
  simp [lookup, List.find?_isSome]

/-! ## The memory store's sorted insert -/

/-- Inserting into ascending entries puts the new entry in place of the key's old one. -/
theorem insertSorted_perm {k v : String} {l : List (String × String)} (hs : KeysAscend l) :
    (insertSorted k v l).Perm ((k, v) :: l.filter (·.1 ≠ k)) := by
  induction l with
  | nil => simp [insertSorted]
  | cons e rest ih =>
    have hrest : ∀ e' ∈ rest, e.1 < e'.1 := (List.pairwise_cons.1 hs).1
    unfold insertSorted
    split_ifs with hlt heq
    · -- the new key comes first, so no entry has it
      have hkeep : ∀ e' ∈ e :: rest, e'.1 ≠ k := by
        intro e' he'
        rcases List.mem_cons.1 he' with rfl | he'
        · exact ne_of_gt hlt
        · exact ne_of_gt (lt_trans hlt (hrest e' he'))
      rw [List.filter_eq_self.2 (by simpa using hkeep)]
    · -- the new key is the head's: it replaces the head, and the rest are past it
      have hkeep : ∀ e' ∈ rest, e'.1 ≠ k := fun e' he' => heq ▸ ne_of_gt (hrest e' he')
      rw [List.filter_cons_of_neg (by simp [heq]), List.filter_eq_self.2 (by simpa using hkeep)]
    · rw [List.filter_cons_of_pos (by simpa using Ne.symm heq)]
      exact ((ih hs.of_cons).cons e).trans (List.Perm.swap _ _ _)

theorem keysAscend_insertSorted {k v : String} {l : List (String × String)}
    (hs : KeysAscend l) : KeysAscend (insertSorted k v l) := by
  induction l with
  | nil => exact List.pairwise_singleton _ _
  | cons e rest ih =>
    have hrest : ∀ e' ∈ rest, e.1 < e'.1 := (List.pairwise_cons.1 hs).1
    unfold insertSorted
    split_ifs with hlt heq
    · refine List.Pairwise.cons (fun e' he' => ?_) hs
      rcases List.mem_cons.1 he' with rfl | he'
      · exact hlt
      · exact lt_trans hlt (hrest e' he')
    · exact List.Pairwise.cons (fun e' he' => heq ▸ hrest e' he') hs.of_cons
    · have hgt : e.1 < k := lt_of_le_of_ne (not_lt.1 hlt) (Ne.symm heq)
      refine List.Pairwise.cons (fun e' he' => ?_) (ih hs.of_cons)
      rcases List.mem_cons.1 ((insertSorted_perm hs.of_cons).mem_iff.1 he') with rfl | he'
      · exact hgt
      · exact hrest e' (List.mem_filter.1 he').1

end KvStore

/-! ## The table's upsert -/

namespace SqliteStore

theorem updateRow_of_forall_ne {k v : String} {rows : List (String × String)}
    (h : ∀ r ∈ rows, r.1 ≠ k) : updateRow k v rows = rows := by
  rw [updateRow]
  conv_rhs => rw [← List.map_id rows]
  exact List.map_congr_left fun r hr => if_neg (h r hr)

/-- Updating the row of a key the table holds once puts the new value in place of the old. -/
theorem updateRow_perm {k v : String} {rows : List (String × String)} (hu : KeysUnique rows)
    (hk : ∃ r ∈ rows, r.1 = k) :
    (updateRow k v rows).Perm ((k, v) :: rows.filter (·.1 ≠ k)) := by
  induction rows with
  | nil => simp at hk
  | cons r rest ih =>
    have hr : r.1 ∉ rest.map (·.1) := (List.nodup_cons.1 hu).1
    by_cases hrk : r.1 = k
    · -- the head is the key's only row
      have hkeep : ∀ r' ∈ rest, r'.1 ≠ k := fun r' hr' heq =>
        hr (List.mem_map.2 ⟨r', hr', heq.trans hrk.symm⟩)
      simp only [updateRow, List.map_cons, if_pos hrk]
      rw [← updateRow, updateRow_of_forall_ne hkeep, List.filter_cons_of_neg (by simp [hrk]),
        List.filter_eq_self.2 (by simpa using hkeep)]
    · have hk' : ∃ r' ∈ rest, r'.1 = k := by
        obtain ⟨r', hr', hr'k⟩ := hk
        rcases List.mem_cons.1 hr' with rfl | hr'
        · exact absurd hr'k hrk
        · exact ⟨r', hr', hr'k⟩
      simp only [updateRow, List.map_cons, if_neg hrk]
      rw [← updateRow, List.filter_cons_of_pos (by simpa using hrk)]
      exact ((ih (List.nodup_cons.1 hu).2 hk').cons r).trans (List.Perm.swap _ _ _)

/-- An upsert on a table whose keys are unique puts the new value in place of the key's old
one, wherever the row stands. -/
theorem upsert_perm {k v : String} {rows : List (String × String)} (hu : KeysUnique rows) :
    (upsert k v rows).Perm ((k, v) :: rows.filter (·.1 ≠ k)) := by
  unfold upsert
  split
  · rename_i r hr
    exact updateRow_perm hu ⟨r, List.mem_of_find?_eq_some hr, by simpa using List.find?_some hr⟩
  · rename_i hnone
    have hkeep : ∀ r ∈ rows, r.1 ≠ k := fun r hr => by
      simpa using List.find?_eq_none.1 hnone r hr
    rw [List.filter_eq_self.2 (by simpa using hkeep)]
    exact List.perm_append_singleton _ _

end SqliteStore

/-! ## The quota rule -/

/-- The quota rule for a write of `v` under `k` on entries `l` within quota `q`, which answers
`a` and leaves entries `l'`: a write that needs more than the limit is refused, naming what it
needs and the limit, and leaves the entries as they were; any other write puts `v` under `k`
in place of `k`'s old value and keeps every other entry. -/
def WriteFollowsQuota (q : Option Nat) (l : List (String × String)) (k v : String)
    (a : StoreAnswer) (l' : List (String × String)) : Prop :=
  match q with
  | some limit =>
    if limit < writeNeeds l k v then
      a = .failed (.quotaExceeded k (writeNeeds l k v) limit) ∧ l' = l
    else a = .written ∧ l'.Perm ((k, v) :: l.filter (·.1 ≠ k))
  | none => a = .written ∧ l'.Perm ((k, v) :: l.filter (·.1 ≠ k))

/-- A write that follows the quota rule keeps the entries within the quota. -/
theorem WriteFollowsQuota.withinQuota {q : Option Nat} {l l' : List (String × String)}
    {k v : String} {a : StoreAnswer} (hw : WriteFollowsQuota q l k v a l')
    (hq : WithinQuota q l) : WithinQuota q l' := by
  intro limit hlimit
  subst hlimit
  simp only [WriteFollowsQuota] at hw
  split_ifs at hw with hover
  · exact hw.2 ▸ hq limit rfl
  · rw [bytesUsed_of_written hw.2]
    omega

/-- Two writes that follow the quota rule on the same entries, in whatever order, answer alike
and leave the same entries, in some order. -/
theorem WriteFollowsQuota.agree {q : Option Nat} {l₁ l₂ l₁' l₂' : List (String × String)}
    {k v : String} {a b : StoreAnswer} (h₁ : WriteFollowsQuota q l₁ k v a l₁')
    (h₂ : WriteFollowsQuota q l₂ k v b l₂') (hl : l₁.Perm l₂) : a = b ∧ l₁'.Perm l₂' := by
  have hrest := (hl.filter (fun e => decide (e.1 ≠ k))).cons (k, v)
  cases q with
  | none =>
    simp only [WriteFollowsQuota] at h₁ h₂
    exact ⟨h₁.1.trans h₂.1.symm, (h₁.2.trans hrest).trans h₂.2.symm⟩
  | some limit =>
    simp only [WriteFollowsQuota, writeNeeds_perm hl] at h₁ h₂
    split_ifs at h₁ h₂
    · exact ⟨h₁.1.trans h₂.1.symm, h₁.2 ▸ h₂.2 ▸ hl⟩
    · exact ⟨h₁.1.trans h₂.1.symm, (h₁.2.trans hrest).trans h₂.2.symm⟩

/-! ## Runs of calls -/

@[simp] theorem runCalls_nil {σ : Type} (call : σ → StoreCall → StoreAnswer × σ) (s : σ) :
    runCalls call s [] = ([], s) := rfl

@[simp] theorem runCalls_cons {σ : Type} (call : σ → StoreCall → StoreAnswer × σ) (s : σ)
    (c : StoreCall) (cs : List StoreCall) :
    runCalls call s (c :: cs) =
      ((call s c).1 :: (runCalls call (call s c).2 cs).1, (runCalls call (call s c).2 cs).2) :=
  rfl

/-- What every call keeps, every run of calls keeps. -/
theorem runCalls_preserves {σ : Type} {call : σ → StoreCall → StoreAnswer × σ} (P : σ → Prop)
    (hstep : ∀ s c, P s → P (call s c).2) {s : σ} (cs : List StoreCall) (hs : P s) :
    P (runCalls call s cs).2 := by
  induction cs generalizing s with
  | nil => exact hs
  | cons c cs ih => exact ih (hstep s c hs)

/-! ## The memory store -/

namespace KvStore

theorem needed_eq_writeNeeds (m : KvStore) (k v : String) :
    m.needed k v = writeNeeds m.entries k v := rfl

theorem set_ok {m m' : KvStore} {k v : String} (h : m.set k v = .ok m') :
    m' = { m with entries := insertSorted k v m.entries } := by
  unfold set at h
  split_ifs at h
  split at h
  · split_ifs at h
    exact (Except.ok.inj h).symm
  · exact (Except.ok.inj h).symm

theorem remove_ok {m m' : KvStore} {k : String} {b : Bool} (h : m.remove k = .ok (b, m')) :
    b = (lookup m.entries k).isSome ∧ m' = { m with entries := m.entries.filter (·.1 ≠ k) } := by
  unfold remove at h
  split_ifs at h
  obtain ⟨rfl, rfl⟩ := Prod.mk.inj (Except.ok.inj h)
  exact ⟨rfl, rfl⟩

/-- A call changes at most the entries of the memory store. -/
theorem call_snd (m : KvStore) (c : StoreCall) : ∃ es, (m.call c).2 = { m with entries := es } := by
  cases c with
  | get k => simp only [call]; split <;> exact ⟨m.entries, rfl⟩
  | keys => simp only [call]; split <;> exact ⟨m.entries, rfl⟩
  | set k v =>
    simp only [call]
    split
    · rename_i m' hm'
      exact ⟨_, set_ok hm'⟩
    · exact ⟨m.entries, rfl⟩
  | remove k =>
    simp only [call]
    split
    · rename_i b m' hm'
      exact ⟨_, (remove_ok hm').2⟩
    · exact ⟨m.entries, rfl⟩

@[simp] theorem call_quota (m : KvStore) (c : StoreCall) : (m.call c).2.quota = m.quota := by
  obtain ⟨es, hes⟩ := call_snd m c
  rw [hes]

@[simp] theorem call_outage (m : KvStore) (c : StoreCall) : (m.call c).2.outage = m.outage := by
  obtain ⟨es, hes⟩ := call_snd m c
  rw [hes]

/-- A write on a memory store that takes writes, with ascending keys, follows the quota rule. -/
theorem call_set_follows_quota {m : KvStore} (ha : KeysAscend m.entries)
    (hw : m.outage ≠ .total) (k v : String) :
    WriteFollowsQuota m.quota m.entries k v (m.call (.set k v)).1
      (m.call (.set k v)).2.entries := by
  have hins := insertSorted_perm (k := k) (v := v) ha
  simp only [WriteFollowsQuota, call, set]
  rw [if_neg hw, ← needed_eq_writeNeeds]
  rcases hq : m.quota with _ | limit
  · exact ⟨rfl, hins⟩
  · simp only [gt_iff_lt]
    split_ifs with hover
    · exact ⟨rfl, rfl⟩
    · exact ⟨rfl, hins⟩

/-- The memory store's invariant: its keys ascend and its entries are within its quota. -/
def Invariant (m : KvStore) : Prop := KeysAscend m.entries ∧ WithinQuota m.quota m.entries

theorem invariant_empty (q : Option Nat) (o : Outage) :
    Invariant { quota := q, outage := o } :=
  ⟨List.Pairwise.nil, fun _ _ => Nat.zero_le _⟩

/-- Every call keeps the memory store's invariant. -/
theorem invariant_call {m : KvStore} (h : m.Invariant) : ∀ c, (m.call c).2.Invariant
  | .get k => by simp only [call]; split <;> exact h
  | .keys => by simp only [call]; split <;> exact h
  | .set k v => by
    refine ⟨?_, ?_⟩
    · -- the entries are kept, or they are the sorted insert's
      simp only [call]
      split
      · rename_i m' hm'
        rw [set_ok hm']
        exact keysAscend_insertSorted h.1
      · exact h.1
    · by_cases ht : m.outage = .total
      · simp only [call, set, if_pos ht]
        exact h.2
      · rw [call_quota]
        exact (call_set_follows_quota h.1 ht k v).withinQuota h.2
  | .remove k => by
    simp only [call]
    split
    · rename_i b m' hm'
      rw [(remove_ok hm').2]
      exact ⟨h.1.filter _, fun limit hl => (bytesUsed_filter_le _ _).trans (h.2 limit hl)⟩
    · exact h

end KvStore

/-! ## The SQLite-backed store -/

namespace SqliteStore

theorem needed_eq_writeNeeds (s : SqliteStore) (k v : String) :
    s.needed k v = writeNeeds s.rows k v := rfl

theorem get_eq_lookup (s : SqliteStore) (k : String) : s.get k = KvStore.lookup s.rows k := rfl

/-- A row was deleted exactly when the key had one. -/
theorem remove_fst (s : SqliteStore) (k : String) :
    (s.remove k).1 = (KvStore.lookup s.rows k).isSome := by
  have hiff : s.rows.length - (s.rows.filter (·.1 ≠ k)).length > 0 ↔ ∃ r ∈ s.rows, r.1 = k := by
    rw [gt_iff_lt, Nat.sub_pos_iff_lt, List.length_filter_lt_length_iff_exists]
    simp
  rw [Bool.eq_iff_iff, KvStore.lookup_isSome_iff, ← hiff]
  simp [remove]

@[simp] theorem call_maxBytes (s : SqliteStore) (c : StoreCall) :
    (s.call c).2.maxBytes = s.maxBytes := by
  cases c with
  | get k => rfl
  | keys => rfl
  | remove k => rfl
  | set k v =>
    simp only [call, set]
    split
    · rename_i s' hs'
      split at hs'
      · split_ifs at hs'
        exact (Except.ok.inj hs') ▸ rfl
      · exact (Except.ok.inj hs') ▸ rfl
    · rfl

/-- A write on a table whose keys are unique follows the quota rule. -/
theorem call_set_follows_quota {s : SqliteStore} (hu : KeysUnique s.rows) (k v : String) :
    WriteFollowsQuota s.maxBytes s.rows k v (s.call (.set k v)).1
      (s.call (.set k v)).2.rows := by
  have hup := upsert_perm (k := k) (v := v) hu
  simp only [WriteFollowsQuota, call, set]
  rw [← needed_eq_writeNeeds]
  rcases hq : s.maxBytes with _ | limit
  · exact ⟨rfl, hup⟩
  · simp only [gt_iff_lt]
    split_ifs with hover
    · exact ⟨rfl, rfl⟩
    · exact ⟨rfl, hup⟩

end SqliteStore

/-! ## The two backends side by side -/

/-- Two answers agree: the same answer, where key lists may list the keys in another order. -/
def StoreAnswer.Agrees : StoreAnswer → StoreAnswer → Prop
  | .keys ks, .keys ks' => ks.Perm ks'
  | a, b => a = b

theorem StoreAnswer.Agrees.refl : ∀ a : StoreAnswer, a.Agrees a
  | .value _ | .written | .removed _ | .failed _ => rfl
  | .keys ks => List.Perm.refl ks

/-- A SQLite-backed store and a memory store in service that hold the same entries, in some
order, within the same quota. -/
structure Mirrors (s : SqliteStore) (m : KvStore) : Prop where
  quota : m.quota = s.maxBytes
  serving : m.outage = .none
  invariant : m.Invariant
  perm : s.rows.Perm m.entries

namespace Mirrors

variable {s : SqliteStore} {m : KvStore}

/-- A store on a new file mirrors an empty memory store with its quota. -/
theorem create (q : Option Nat) : Mirrors (SqliteStore.create q) { quota := q } :=
  ⟨rfl, rfl, KvStore.invariant_empty q .none, List.Perm.refl _⟩

theorem keysUnique (h : Mirrors s m) : KeysUnique s.rows :=
  KeysUnique.of_perm h.perm h.invariant.1.keysUnique

theorem withinQuota (h : Mirrors s m) : WithinQuota s.maxBytes s.rows := by
  rw [← h.quota]
  intro limit hlimit
  rw [bytesUsed_perm h.perm]
  exact h.invariant.2 limit hlimit

/-- A read gets the same value from both. -/
theorem get (h : Mirrors s m) (k : String) : m.get k = .ok (s.get k) := by
  rw [KvStore.get, if_neg (by simp [h.serving]), SqliteStore.get_eq_lookup,
    KvStore.lookup_perm h.perm h.keysUnique]

/-- A write gets the same answer from both and leaves them mirroring each other. -/
theorem set (h : Mirrors s m) (k v : String) :
    (s.call (.set k v)).1 = (m.call (.set k v)).1 ∧
      Mirrors (s.call (.set k v)).2 (m.call (.set k v)).2 := by
  have hs := SqliteStore.call_set_follows_quota h.keysUnique k v
  have hm := KvStore.call_set_follows_quota h.invariant.1 (by simp [h.serving]) k v
  rw [← h.quota] at hs
  obtain ⟨hans, hperm⟩ := hs.agree hm h.perm
  refine ⟨hans, ⟨?_, ?_, KvStore.invariant_call h.invariant _, hperm⟩⟩
  · simp [h.quota]
  · simp [h.serving]

/-- A removal gets the same answer from both and leaves them mirroring each other. -/
theorem remove (h : Mirrors s m) (k : String) :
    (s.call (.remove k)).1 = (m.call (.remove k)).1 ∧
      Mirrors (s.call (.remove k)).2 (m.call (.remove k)).2 := by
  have hm : m.remove k = .ok ((KvStore.lookup m.entries k).isSome,
      { m with entries := m.entries.filter (·.1 ≠ k) }) := by
    simp [KvStore.remove, h.serving]
  have hinv := KvStore.invariant_call h.invariant (.remove k)
  simp only [SqliteStore.call, KvStore.call, hm] at hinv ⊢
  refine ⟨?_, ⟨h.quota, h.serving, hinv, h.perm.filter _⟩⟩
  rw [SqliteStore.remove_fst, KvStore.lookup_perm h.perm h.keysUnique]

/-- Every call gets agreeing answers from both and leaves them mirroring each other. -/
theorem call (h : Mirrors s m) (c : StoreCall) :
    (s.call c).1.Agrees (m.call c).1 ∧ Mirrors (s.call c).2 (m.call c).2 := by
  cases c with
  | get k =>
    simp only [SqliteStore.call, KvStore.call, h.get k]
    exact ⟨StoreAnswer.Agrees.refl _, h⟩
  | set k v =>
    obtain ⟨hans, h'⟩ := h.set k v
    exact ⟨hans ▸ StoreAnswer.Agrees.refl _, h'⟩
  | remove k =>
    obtain ⟨hans, h'⟩ := h.remove k
    exact ⟨hans ▸ StoreAnswer.Agrees.refl _, h'⟩
  | keys =>
    have hm : m.keys = .ok (m.entries.map (·.1)) := by simp [KvStore.keys, h.serving]
    simp only [SqliteStore.call, KvStore.call, hm]
    exact ⟨h.perm.map _, h⟩

/-- Every run of calls gets agreeing answers from both, call by call, and leaves them
mirroring each other. -/
theorem runCalls (h : Mirrors s m) (cs : List StoreCall) :
    List.Forall₂ StoreAnswer.Agrees (runCalls SqliteStore.call s cs).1
        (runCalls KvStore.call m cs).1 ∧
      Mirrors (runCalls SqliteStore.call s cs).2 (runCalls KvStore.call m cs).2 := by
  induction cs generalizing s m with
  | nil => exact ⟨List.Forall₂.nil, h⟩
  | cons c cs ih =>
    obtain ⟨hans, h₁⟩ := h.call c
    obtain ⟨hrest, h₂⟩ := ih h₁
    exact ⟨List.Forall₂.cons hans hrest, h₂⟩

end Mirrors

/-- **The SQLite-backed store mirrors the memory store.** For every quota and every sequence of
calls, a store on a new file and an empty memory store with that quota give the same answers,
call by call, with the same errors (needed bytes and limit included) and the same keys up to
their order. Both stay within the quota, and on the stores the calls leave, a write of any
value under any key follows the quota rule: it is refused, naming what it needs (every other
entry, the key and the value) and the limit, exactly when that exceeds the limit, and then
changes nothing; otherwise it puts the value under the key and keeps every other entry. A store
reopened on the file holds the rows the store left there. -/
theorem SqliteStore.mirrors_memory_store (q : Option Nat) (calls : List StoreCall) :
    let mem := runCalls KvStore.call { quota := q } calls
    let sql := runCalls SqliteStore.call (SqliteStore.create q) calls
    List.Forall₂ StoreAnswer.Agrees sql.1 mem.1 ∧
      WithinQuota q mem.2.entries ∧ WithinQuota q sql.2.rows ∧
      (∀ k v,
        WriteFollowsQuota q mem.2.entries k v (mem.2.call (.set k v)).1
            (mem.2.call (.set k v)).2.entries ∧
          WriteFollowsQuota q sql.2.rows k v (sql.2.call (.set k v)).1
            (sql.2.call (.set k v)).2.rows) ∧
      ∀ q', (SqliteStore.openFile sql.2.file q').rows = sql.2.rows := by
  intro mem sql
  obtain ⟨hans, hm⟩ := (Mirrors.create q).runCalls calls
  have hq : mem.2.quota = q :=
    runCalls_preserves (fun m : KvStore => m.quota = q) (fun m c h => (KvStore.call_quota m c).trans h)
      calls rfl
  have hq' : sql.2.maxBytes = q := hm.quota.symm.trans hq
  refine ⟨hans, hq ▸ hm.invariant.2, hq' ▸ hm.withinQuota, fun k v => ⟨?_, ?_⟩, fun _ => rfl⟩
  · rw [← hq]
    exact KvStore.call_set_follows_quota hm.invariant.1 (by simp [hm.serving]) k v
  · rw [← hq']
    exact SqliteStore.call_set_follows_quota hm.keysUnique k v

end MarketChat
