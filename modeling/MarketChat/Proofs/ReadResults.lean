import MarketChat.Proofs.TimestampText
/-!
# What the readers return

A reader either fails or returns a value, and which values it can return is a property of the
reader alone, whatever the text: an integer field is within its rule's bounds, a timestamp is
a valid instant, and a record has one value per field, each of the kind its rule gives.
`Reader.Yields r P` says that every value `r` returns satisfies `P`. It is built up along the
readers' own structure: a bind yields what its continuation yields from what the first reader
yields, a failure yields anything, and placing and closing a fault change nothing on success.

The number reader makes an exact negative integer only between `-2^63` and `-1`
(`Reader.number_yields`); `fitInteger` checks the other bound, so an integer field's value is
within its rule's bounds (`Reader.integer_yields`). Every field rule then reads a value that
fits it (`Reader.field_fits`), and a record read from an object or an array has values that
fit its fields, provided the defaults do (`Reader.record_fits`): the values found for an object's
members keep fitting as members are read (`Reader.FoundFit`), and filling in the defaults
keeps them so.

Main statements: `Reader.field_fits`, `Reader.record_fits`.
-/

namespace MarketChat

namespace Reader

/-- Every value reader `r` returns satisfies `P`, whatever the text it reads. -/
def Yields {α : Type} (r : Reader α) (P : α → Prop) : Prop :=
  ∀ ⦃c : Cursor⦄ ⦃a : α⦄ ⦃c' : Cursor⦄, r c = .ok a c' → P a

namespace Yields

variable {α β : Type} {P : α → Prop}

theorem mono {r : Reader α} {Q : α → Prop} (h : Yields r P) (hPQ : ∀ a, P a → Q a) :
    Yields r Q :=
  fun _ a _ hr => hPQ a (h hr)

protected theorem pure {a : α} (h : P a) : Yields (pure a : Reader α) P := by
  intro c b c' hr
  obtain ⟨rfl, -⟩ : a = b ∧ c = c' := by simpa [pure_run] using hr
  exact h

protected theorem bind {x : Reader β} {Q : β → Prop} {f : β → Reader α} (hx : Yields x Q)
    (hf : ∀ b, Q b → Yields (f b) P) : Yields (x >>= f) P := by
  intro c a c' hr
  obtain ⟨b, c₁, hx₁, hf₁⟩ := bind_run_inv hr
  exact hf b (hx hx₁) hf₁

theorem bind_any {x : Reader β} {f : β → Reader α} (hf : ∀ b, Yields (f b) P) :
    Yields (x >>= f) P :=
  Yields.bind (Q := fun _ => True) (fun _ _ _ _ => trivial) fun b _ => hf b

protected theorem map {x : Reader β} {Q : β → Prop} {f : β → α} (hx : Yields x Q)
    (hf : ∀ b, Q b → P (f b)) : Yields (f <$> x) P := by
  intro c a c' hr
  obtain ⟨b, hx₁, rfl⟩ := map_run_inv hr
  exact hf b (hx hx₁)

theorem map_any {x : Reader β} {f : β → α} (hf : ∀ b, P (f b)) : Yields (f <$> x) P :=
  Yields.map (Q := fun _ => True) (fun _ _ _ _ => trivial) fun b _ => hf b

/-- A reader that never succeeds yields anything. -/
theorem of_error {r : Reader α} (h : ∀ c, ∃ e c', r c = .error e c') : Yields r P := by
  intro c a c' hr
  obtain ⟨e, c'', he⟩ := h c
  rw [he] at hr
  cases hr

protected theorem fail (k : Fault) : Yields (fail k : Reader α) P :=
  of_error fun _ => ⟨_, _, rfl⟩

protected theorem failNext (k : Fault) : Yields (failNext k : Reader α) P :=
  of_error fun _ => ⟨_, _, rfl⟩

protected theorem failLoose (k : Fault) : Yields (failLoose k : Reader α) P :=
  of_error fun _ => ⟨_, _, rfl⟩

protected theorem failAfterByte (k : Fault) : Yields (failAfterByte k : Reader α) P :=
  of_error fun _ => ⟨_, _, rfl⟩

protected theorem placing {r : Reader α} (h : Yields r P) : Yields (placing r) P := by
  intro c a c' hr
  unfold placing at hr
  split at hr
  · obtain ⟨rfl, rfl⟩ : _ ∧ _ := by simpa using hr
    exact h (by assumption)
  · cases hr

protected theorem thenClose {r : Reader α} {after : Reader Unit} (h : Yields r P) :
    Yields (thenClose r after) P := by
  intro c a c' hr
  unfold thenClose at hr
  split at hr
  · split at hr
    · obtain ⟨rfl, rfl⟩ : _ ∧ _ := by simpa using hr
      exact h (by assumption)
    · cases hr
  · split at hr <;> cases hr

protected theorem ofExcept {e : Except Fault α} (h : ∀ a, e = .ok a → P a) :
    Yields (ofExcept e) P := by
  cases e with
  | ok a => exact Yields.pure (h a rfl)
  | error k => exact Yields.failLoose k

end Yields

end Reader

/-- An exact negative integer as the number reader makes it: negative and not below `-2^63`.
Other numbers are not constrained here. -/
def JsonNumber.NegIntFits : JsonNumber → Prop
  | .negInt i => -2 ^ 63 ≤ i ∧ i < 0
  | _ => True

theorem FieldRule.bounds_sign (rule : FieldRule) : rule.bounds.1 ≤ 0 ∧ 0 ≤ rule.bounds.2 := by
  unfold FieldRule.bounds
  split <;> decide

/-- An integer within a rule's bounds is all `fitInteger` lets through. -/
theorem fitInteger_bounds {rule : FieldRule} {n : JsonNumber} {i : Int} (hn : n.NegIntFits)
    (h : fitInteger rule n = .ok i) : rule.bounds.1 ≤ i ∧ i ≤ rule.bounds.2 := by
  have hsign := rule.bounds_sign
  unfold fitInteger at h
  cases n with
  | nat v =>
    dsimp only at h
    split_ifs at h with hv
    cases h
    omega
  | negInt v =>
    dsimp only at h
    split_ifs at h with hv
    cases h
    exact ⟨hv, by have := hn.2; omega⟩
  | float x => cases h

namespace Reader

theorem numberEnd_yields (p : Bool) (s x : Nat) (e : Bool) :
    Yields (numberEnd p s x e) JsonNumber.NegIntFits := by
  unfold numberEnd
  split_ifs with h₁ h₂ h₃ h₄
  · exact Yields.bind_any fun _ => Yields.pure trivial
  · exact Yields.pure trivial
  · exact Yields.pure trivial
  · -- the only exact negative integer: a nonzero significand up to `2^63`
    exact Yields.pure ⟨by omega, by omega⟩
  · exact Yields.bind_any fun _ => Yields.pure trivial

theorem numberTail_yields (p : Bool) (s x : Nat) (e : Bool) :
    Yields (numberTail p s x e) JsonNumber.NegIntFits := by
  unfold numberTail
  refine Yields.bind_any fun o => ?_
  split
  · exact Yields.bind_any fun _ => Yields.pure trivial
  · exact Yields.bind_any fun _ => Yields.pure trivial
  · exact Yields.bind_any fun _ => Yields.pure trivial
  · exact numberEnd_yields p s x e

theorem number_yields (p : Bool) : Yields (number p) JsonNumber.NegIntFits := by
  unfold number
  refine Yields.bind_any fun o => ?_
  split
  · exact Yields.fail _
  · refine Yields.bind_any fun _ => Yields.bind_any fun o => ?_
    split
    · split
      · exact Yields.failNext _
      · exact numberTail_yields p 0 0 true
    · exact numberTail_yields p 0 0 true
  · split
    · exact Yields.bind_any fun _ => numberTail_yields p _ _ _
    · exact Yields.failAfterByte _

/-- A value that does not fit never reads: `mismatch` reads a scalar only to name it. -/
theorem mismatch_yields {α : Type} (expected : String) (P : α → Prop) :
    Yields (mismatch expected) P := by
  unfold mismatch
  refine Yields.placing (Yields.bind_any fun o => ?_)
  split
  · exact Yields.bind_any fun _ => Yields.bind_any fun _ => Yields.failLoose _
  · exact Yields.bind_any fun _ => Yields.bind_any fun _ => Yields.failLoose _
  · exact Yields.bind_any fun _ => Yields.bind_any fun _ => Yields.failLoose _
  · exact Yields.bind_any fun _ => Yields.bind_any fun _ => Yields.failLoose _
  · exact Yields.bind_any fun _ => Yields.bind_any fun _ => Yields.failLoose _
  · exact Yields.failLoose _
  · exact Yields.failLoose _
  · split
    · exact Yields.bind_any fun _ => Yields.failLoose _
    · exact Yields.failNext _
  · exact Yields.failNext _

/-- **An integer field reads within its rule's bounds.** -/
theorem integer_yields (rule : FieldRule) :
    Yields (integer rule) fun i => rule.bounds.1 ≤ i ∧ i ≤ rule.bounds.2 := by
  unfold integer
  refine Yields.placing (Yields.bind_any fun o => ?_)
  have hfit : ∀ p, Yields (number p >>= fun n => ofExcept (fitInteger rule n))
      fun i => rule.bounds.1 ≤ i ∧ i ≤ rule.bounds.2 := fun p =>
    Yields.bind (number_yields p) fun n hn => Yields.ofExcept fun i h => fitInteger_bounds hn h
  split
  · exact Yields.failNext _
  · exact Yields.bind_any fun _ => hfit false
  · split
    · exact hfit true
    · exact mismatch_yields _ _

/-- `null` reads as nothing; anything else as `r` reads it. -/
theorem optional_yields {α : Type} {r : Reader α} {Q : α → Prop} (h : Yields r Q) :
    Yields (optional r) fun o => ∀ a, o = some a → Q a := by
  unfold optional
  refine Yields.bind_any fun o => ?_
  split
  · exact Yields.bind_any fun _ => Yields.bind_any fun _ => Yields.pure fun _ h => nomatch h
  · exact Yields.map h fun a ha b hb => Option.some.inj hb ▸ ha

end Reader

/-- A field value as its rule reads it: the constructor the rule gives, integers within the
rule's bounds, and instants valid. An absent value only where the rule allows `null`. -/
def FieldValue.Fits : FieldRule → FieldValue → Prop
  | .int64, v => ∃ i, v = .int i ∧ -2 ^ 63 ≤ i ∧ i ≤ 2 ^ 63 - 1
  | .uint32, v => ∃ n, v = .nat n ∧ n ≤ 2 ^ 32 - 1
  | .uint64, v | .size, v => ∃ n, v = .nat n ∧ n ≤ 2 ^ 64 - 1
  | .flag, v => ∃ b, v = .flag b
  | .text, v | .pathText, v | .id, v | .userId, v => ∃ s, v = .text s
  | .maybeInt64, v => v = .absent ∨ ∃ i, v = .int i ∧ -2 ^ 63 ≤ i ∧ i ≤ 2 ^ 63 - 1
  | .maybeText, v | .maybeId, v | .maybeUserId, v => v = .absent ∨ ∃ s, v = .text s
  | .instant, v => ∃ t, v = .instant t ∧ t.Valid
  | .maybeInstant, v => v = .absent ∨ ∃ t, v = .instant t ∧ t.Valid
  | .any, v => ∃ j, v = .json j
  | .values, v => ∃ items, v = .jsons items
  | .record _ _, v => ∃ vs, v = .record vs

/-- Every timestamp read is a valid instant. -/
theorem readInstant_valid {raw : String} {t : Instant} (h : readInstant raw = .ok t) :
    t.Valid := by
  unfold readInstant at h
  split at h
  · cases h
    exact Instant.valid_of_parse? (by assumption)
  · cases h

/-- A record rule reads a document as a record. -/
theorem fromTree_record {name : String} {fields : List (String × FieldRule × Option FieldValue)}
    {j : Json} {v : FieldValue} (h : (FieldRule.record name fields).fromTree j = .ok v) :
    ∃ vs, v = .record vs := by
  cases j with
  | obj members =>
    simp only [FieldRule.fromTree] at h
    generalize List.foldl _ _ members = found at h
    cases found with
    | error k => cases h
    | ok fs =>
      dsimp only [Except.bind] at h
      cases hf : fillDefaults fields fs with
      | error k => rw [hf] at h; cases h
      | ok vs =>
        rw [hf] at h
        cases h
        exact ⟨vs, rfl⟩
  | arr items =>
    simp only [FieldRule.fromTree] at h
    split at h
    · cases h
      exact ⟨_, rfl⟩
    · cases h
    · cases h
  | _ => simp only [FieldRule.fromTree] at h; cases h

namespace Reader

theorem instantText_yields :
    Yields (text "a string" >>= fun raw => FieldValue.instant <$> ofExcept (readInstant raw))
      fun v => ∃ t, v = .instant t ∧ t.Valid :=
  Yields.bind_any fun _ =>
    Yields.map (Yields.ofExcept (P := Instant.Valid) fun _ h => readInstant_valid h)
      fun t ht => ⟨t, rfl, ht⟩

/-- **Every field reads as its rule says.** -/
theorem field_fits (rule : FieldRule) : Yields (field rule) (FieldValue.Fits rule) := by
  cases rule with
  | int64 =>
    exact Yields.map (integer_yields .int64) fun i hi => ⟨i, rfl, hi⟩
  | uint32 =>
    refine Yields.map (integer_yields .uint32) fun i hi => ⟨i.toNat, rfl, ?_⟩
    simp only [FieldRule.bounds] at hi
    omega
  | uint64 =>
    refine Yields.map (integer_yields .uint64) fun i hi => ⟨i.toNat, rfl, ?_⟩
    simp only [FieldRule.bounds] at hi
    omega
  | size =>
    refine Yields.map (integer_yields .size) fun i hi => ⟨i.toNat, rfl, ?_⟩
    simp only [FieldRule.bounds] at hi
    omega
  | flag => exact Yields.map_any fun b => ⟨b, rfl⟩
  | text => exact Yields.map_any fun s => ⟨s, rfl⟩
  | pathText => exact Yields.map_any fun s => ⟨s, rfl⟩
  | maybeInt64 =>
    refine Yields.map (optional_yields (integer_yields .int64)) fun o ho => ?_
    cases o with
    | none => exact .inl rfl
    | some i => exact .inr ⟨i, rfl, ho i rfl⟩
  | maybeText =>
    refine Yields.map_any fun o => ?_
    cases o with
    | none => exact .inl rfl
    | some s => exact .inr ⟨s, rfl⟩
  | id => exact Yields.map_any fun s => ⟨s, rfl⟩
  | maybeId =>
    refine Yields.map_any fun o => ?_
    cases o with
    | none => exact .inl rfl
    | some s => exact .inr ⟨s, rfl⟩
  | instant => exact instantText_yields
  | maybeInstant =>
    refine Yields.bind_any fun o => ?_
    split
    · exact Yields.pure (.inl rfl)
    · exact Yields.map (Yields.ofExcept (P := Instant.Valid) fun _ h => readInstant_valid h)
        fun t ht => .inr ⟨t, rfl, ht⟩
  | userId => exact Yields.map_any fun j => ⟨_, rfl⟩
  | maybeUserId =>
    refine Yields.map_any fun o => ?_
    cases o with
    | none => exact .inl rfl
    | some j => exact .inr ⟨_, rfl⟩
  | any => exact Yields.map_any fun j => ⟨_, rfl⟩
  | values => exact Yields.map_any fun items => ⟨items, rfl⟩
  | record name fields => exact Yields.bind_any fun j => Yields.ofExcept fun _ h => fromTree_record h

/-! ## Records -/

section Records

variable (fields : List (String × FieldRule × Option FieldValue))

/-- The values found so far for a record's fields each fit their field. -/
def FoundFit (found : List (Option FieldValue)) : Prop :=
  List.Forall₂ (fun f o => ∀ v, o = some v → v.Fits f.2.1) fields found

/-- The fields' defaults fit their fields. -/
def DefaultsFit : Prop := ∀ f ∈ fields, ∀ d, f.2.2 = some d → d.Fits f.2.1

/-- The values of a record each fit their field. -/
def ValuesFit (vs : List FieldValue) : Prop :=
  List.Forall₂ (fun f v => FieldValue.Fits f.2.1 v) fields vs

variable {fields}

theorem foundFit_none : FoundFit fields (fields.map fun _ => none) := by
  induction fields with
  | nil => exact .nil
  | cons f rest ih => exact .cons (fun _ h => nomatch h) ih

/-- An array's items read into a record's fields in order, defaults for the missing tail. -/
theorem recordItems_fits (hd : DefaultsFit fields) (expecting : String) :
    ∀ (index : Nat) (first : Bool), Yields (recordItems expecting index fields first)
      (ValuesFit fields) := by
  induction fields with
  | nil => exact fun _ _ => Yields.pure .nil
  | cons f rest ih =>
    obtain ⟨k, rule, dflt⟩ := f
    have hrest : DefaultsFit rest := fun f hf => hd f (List.mem_cons_of_mem _ hf)
    intro index first
    simp only [recordItems]
    refine Yields.bind_any fun b => ?_
    split
    · exact Yields.bind (field_fits rule) fun v hv =>
        Yields.bind (ih hrest _ _) fun vs hvs => Yields.pure (.cons hv hvs)
    · split
      · exact Yields.bind (ih hrest _ _) fun vs hvs =>
          Yields.pure (.cons (hd _ List.mem_cons_self _ rfl) hvs)
      · exact Yields.failLoose _

/-- A member read into the first field of its key keeps every found value fitting. -/
theorem memberField_fits (k : String) :
    ∀ {fields : List (String × FieldRule × Option FieldValue)} {found} {r},
      memberField k fields found = some r → FoundFit fields found → Yields r (FoundFit fields)
  | [], _, _, h, _ => nomatch h
  | _ :: _, [], _, h, _ => nomatch h
  | (k', rule, d) :: rest, f :: fs, r, h, hfound => by
    simp only [memberField] at h
    split_ifs at h
    · obtain rfl := Option.some.inj h
      split
      · exact Yields.failLoose _
      · exact Yields.bind_any fun _ => Yields.bind (field_fits rule) fun v hv =>
          Yields.pure (.cons (fun _ h => Option.some.inj h ▸ hv) (List.forall₂_cons.1 hfound).2)
    · obtain ⟨r', hr', rfl⟩ := Option.map_eq_some_iff.1 h
      exact Yields.map (memberField_fits k hr' (List.forall₂_cons.1 hfound).2)
        fun found' hf => .cons (List.forall₂_cons.1 hfound).1 hf

/-- An object's members read into a record's fields keep every found value fitting. -/
theorem recordMembers_fits :
    ∀ (fuel : Nat) (first : Bool) {found : List (Option FieldValue)}, FoundFit fields found →
      Yields (recordMembers fields fuel first found) (FoundFit fields)
  | 0, _, _, hfound => by
    rw [recordMembers]
    exact Yields.pure hfound
  | fuel + 1, first, found, hfound => by
    rw [recordMembers]
    refine Yields.bind_any fun b => ?_
    split
    · refine Yields.bind_any fun k => ?_
      split
      · exact Yields.bind (memberField_fits k (by assumption) hfound) fun found' hf =>
          recordMembers_fits fuel false hf
      · exact Yields.bind_any fun _ => Yields.bind_any fun _ => recordMembers_fits fuel false hfound
    · exact Yields.pure hfound

/-- One field filled in: the value found, else the default. -/
theorem fillDefaults_cons_inv {k : String} {rule : FieldRule} {dflt : Option FieldValue}
    {rest : List (String × FieldRule × Option FieldValue)} {o : Option FieldValue}
    {os : List (Option FieldValue)} {vs : List FieldValue}
    (h : fillDefaults ((k, rule, dflt) :: rest) (o :: os) = .ok vs) :
    ∃ v ws, vs = v :: ws ∧ fillDefaults rest os = .ok ws ∧
      (o = some v ∨ o = none ∧ dflt = some v) := by
  have hmap : ∀ {v : FieldValue} {e : Except Fault (List FieldValue)},
      e.map (v :: ·) = .ok vs → ∃ ws, vs = v :: ws ∧ e = .ok ws := by
    intro v e he
    cases e with
    | error _ => cases he
    | ok ws => cases he; exact ⟨ws, rfl, rfl⟩
  cases o with
  | some v =>
    simp only [fillDefaults, List.head?, Option.getD, List.drop_succ_cons, List.drop_zero] at h
    obtain ⟨ws, rfl, hws⟩ := hmap h
    exact ⟨v, ws, rfl, hws, .inl rfl⟩
  | none =>
    cases dflt with
    | some d =>
      simp only [fillDefaults, List.head?, Option.getD, List.drop_succ_cons, List.drop_zero] at h
      obtain ⟨ws, rfl, hws⟩ := hmap h
      exact ⟨d, ws, rfl, hws, .inr ⟨rfl, rfl⟩⟩
    | none =>
      simp only [fillDefaults, List.head?, Option.getD] at h
      cases h

/-- Filling in the defaults keeps every value fitting. -/
theorem fillDefaults_fits (hd : DefaultsFit fields) :
    ∀ {found : List (Option FieldValue)} {vs : List FieldValue}, FoundFit fields found →
      fillDefaults fields found = .ok vs → ValuesFit fields vs := by
  induction fields with
  | nil =>
    intro found vs _ h
    cases h
    exact .nil
  | cons f rest ih =>
    obtain ⟨k, rule, dflt⟩ := f
    have hrest : DefaultsFit rest := fun f hf => hd f (List.mem_cons_of_mem _ hf)
    intro found vs hfound h
    obtain ⟨o, os, rfl⟩ : ∃ o os, found = o :: os := by
      cases hfound with
      | cons _ _ => exact ⟨_, _, rfl⟩
    have ⟨ho, hos⟩ := List.forall₂_cons.1 hfound
    obtain ⟨v, ws, rfl, htail, hv⟩ := fillDefaults_cons_inv h
    refine .cons ?_ (ih hrest hos htail)
    rcases hv with hv | ⟨-, hv⟩
    · exact ho v hv
    · exact hd _ List.mem_cons_self v hv

/-- **Every record reads as its fields say**, from an object or from an array, when the
defaults fit their fields. -/
theorem record_fits {shape : RecordShape} (hd : DefaultsFit shape.fields) :
    Yields (record shape) (ValuesFit shape.fields) := by
  unfold record
  refine Yields.placing (Yields.bind_any fun o => ?_)
  split
  · exact Yields.failNext _
  · exact Yields.bind_any fun _ => Yields.bind_any fun _ => Yields.thenClose
      (Yields.bind (recordItems_fits hd _ _ _) fun vs hvs =>
        Yields.bind_any fun _ => Yields.pure hvs)
  · exact Yields.bind_any fun _ => Yields.bind_any fun _ => Yields.bind_any fun n =>
      Yields.thenClose (Yields.bind (recordMembers_fits n true foundFit_none) fun found hf =>
        Yields.bind_any fun _ => Yields.ofExcept fun vs h => fillDefaults_fits hd hf h)
  · exact mismatch_yields _ _

end Records

end Reader

end MarketChat
