import MarketChat.Proofs.JsonReadBack
/-!
# Reading a value scans the text

The value reader `Reader.document d` takes its nesting allowance `d` as an argument and never
looks at the cursor's own, so it reads alike whatever allowance the cursor carries; and when it
succeeds it has read a prefix of the text and kept the cursor's allowance. `Reader.Scans r`
says both of a reader. It is built up along the readers' own structure, from the lexeme readers
through the separators to `document`, `documentItems` and `documentMembers`, which scan at every
allowance (`Reader.Scans.document`).

Three facts about the value reader follow. Every value read leaves less text
(`Reader.document_advances`), so any fuel beyond the length of the text reads an array's items
alike (`Reader.documentItems_fuel`). The items and members read so far are put in front of those
read next (`Reader.documentItems_acc`, `Reader.documentMembers_acc`). And a value read says what
the text was: a string is read after a quote, an array after `[` and an object after `{`, each by
the loops over its items or members within the allowance, and anything else is a scalar
(`Reader.document_ok_inv`).

Main statements: `Reader.Scans.document`, `Reader.document_advances`, `Reader.document_ok_inv`.
-/

namespace MarketChat

/-! ## Readers that scan -/

/-- The cursor with another nesting allowance. -/
def Cursor.withDepth (c : Cursor) (x : Nat) : Cursor := { c with depth := x }

@[simp] theorem Cursor.skipBlank_depth (c : Cursor) : c.skipBlank.depth = c.depth := rfl

@[simp] theorem Cursor.withDepth_withDepth (c : Cursor) (x y : Nat) :
    (c.withDepth x).withDepth y = c.withDepth y := rfl

@[simp] theorem Cursor.depth_withDepth (c : Cursor) (x : Nat) : (c.withDepth x).depth = x := rfl

@[simp] theorem Cursor.rest_withDepth (c : Cursor) (x : Nat) : (c.withDepth x).rest = c.rest := rfl

theorem Cursor.withDepth_eq_self {c : Cursor} {x : Nat} (h : c.depth = x) : c.withDepth x = c := by
  rw [← h]
  rfl

theorem Cursor.bump_withDepth (c : Cursor) (x : Nat) :
    (c.withDepth x).bump = c.bump.withDepth x := by
  obtain ⟨rest, line, column, depth⟩ := c
  cases rest with
  | nil => rfl
  | cons ch t =>
    by_cases h : ch = '\n'
    · subst h
      rfl
    · simp [Cursor.bump, Cursor.withDepth]

theorem Cursor.bump_suffix (c : Cursor) : c.bump.rest <:+ c.rest := by
  cases h : c.rest with
  | nil =>
    have hc : c.bump = c := by
      unfold Cursor.bump
      rw [h]
    simp only [hc, h, List.suffix_refl]
  | cons ch t =>
    rw [Cursor.bump_rest h]
    exact List.suffix_cons ch t

theorem Cursor.skipBlank_go_suffix (rest : List Char) (line col : Nat) :
    (Cursor.skipBlank.go rest line col).1 <:+ rest := by
  fun_induction Cursor.skipBlank.go rest line col with
  | case1 rest line col ih => exact ih.trans (List.suffix_cons _ _)
  | case2 rest line col ih => exact ih.trans (List.suffix_cons _ _)
  | case3 rest line col ih => exact ih.trans (List.suffix_cons _ _)
  | case4 rest line col ih => exact ih.trans (List.suffix_cons _ _)
  | case5 rest line col => exact List.suffix_refl _

namespace Reader

/-- A step's result, its cursor given another nesting allowance. -/
def shiftDepth {α : Type} (x : Nat) :
    EStateM.Result JsonError Cursor α → EStateM.Result JsonError Cursor α
  | .ok a c => .ok a (c.withDepth x)
  | .error e c => .error e (c.withDepth x)

/-- Reader `r` scans the text: what it does does not depend on the cursor's nesting allowance,
which it keeps, and when it succeeds it has read a prefix of the text. -/
structure Scans {α : Type} (r : Reader α) : Prop where
  blind : ∀ c x, r (c.withDepth x) = shiftDepth x (r c)
  forward : ∀ ⦃c : Cursor⦄ ⦃a : α⦄ ⦃c' : Cursor⦄, r c = .ok a c' →
    c'.rest <:+ c.rest ∧ c'.depth = c.depth

namespace Scans

variable {α β : Type}

protected theorem pure (a : α) : Scans (pure a : Reader α) where
  blind _ _ := rfl
  forward c b c' h := by
    obtain ⟨rfl, rfl⟩ : a = b ∧ c = c' := by simpa [pure_run] using h
    exact ⟨List.suffix_refl _, rfl⟩

protected theorem bind {x : Reader β} {f : β → Reader α} (hx : Scans x) (hf : ∀ b, Scans (f b)) :
    Scans (x >>= f) where
  blind c d := by
    show EStateM.bind x f (c.withDepth d) = shiftDepth d (EStateM.bind x f c)
    simp only [EStateM.bind, hx.blind]
    cases x c with
    | ok b c₁ => exact (hf b).blind c₁ d
    | error e c₁ => rfl
  forward c a c' h := by
    obtain ⟨b, c₁, hx₁, hf₁⟩ := bind_run_inv h
    obtain ⟨hs₁, hd₁⟩ := hx.forward hx₁
    obtain ⟨hs₂, hd₂⟩ := (hf b).forward hf₁
    exact ⟨hs₂.trans hs₁, hd₂.trans hd₁⟩

protected theorem map {x : Reader β} (f : β → α) (hx : Scans x) : Scans (f <$> x) where
  blind c d := by
    show EStateM.map f x (c.withDepth d) = shiftDepth d (EStateM.map f x c)
    simp only [EStateM.map, hx.blind]
    cases x c <;> rfl
  forward c a c' h := by
    obtain ⟨b, hx₁, -⟩ := map_run_inv h
    exact hx.forward hx₁

/-- A reader that never succeeds and fails where it stands. -/
theorem of_error {r : Reader α} (hblind : ∀ c x, r (c.withDepth x) = shiftDepth x (r c))
    (h : ∀ c, ∃ e, r c = .error e c) : Scans r where
  blind := hblind
  forward c a c' hr := by
    obtain ⟨e, he⟩ := h c
    rw [he] at hr
    cases hr

protected theorem fail (k : Fault) : Scans (fail k : Reader α) :=
  of_error (fun _ _ => rfl) fun _ => ⟨_, rfl⟩

protected theorem failNext (k : Fault) : Scans (failNext k : Reader α) :=
  of_error (fun _ _ => rfl) fun _ => ⟨_, rfl⟩

protected theorem failLoose (k : Fault) : Scans (failLoose k : Reader α) :=
  of_error (fun _ _ => rfl) fun _ => ⟨_, rfl⟩

protected theorem failAfterByte (k : Fault) : Scans (failAfterByte k : Reader α) :=
  of_error (fun _ _ => rfl) fun _ => ⟨_, rfl⟩

protected theorem peek : Scans peek where
  blind _ _ := rfl
  forward c a c' h := by
    cases h
    exact ⟨List.suffix_refl _, rfl⟩

protected theorem bump : Scans bump where
  blind c x := by
    show EStateM.Result.ok () (c.withDepth x).bump = _
    rw [Cursor.bump_withDepth]
    rfl
  forward c a c' h := by
    cases h
    exact ⟨c.bump_suffix, c.bump_depth⟩

protected theorem skipBlank : Scans skipBlank where
  blind _ _ := rfl
  forward c a c' h := by
    cases h
    exact ⟨Cursor.skipBlank_go_suffix c.rest c.line c.column, rfl⟩

protected theorem budget : Scans budget where
  blind _ _ := rfl
  forward c a c' h := by
    cases h
    exact ⟨List.suffix_refl _, rfl⟩

protected theorem placing {r : Reader α} (h : Scans r) : Scans (placing r) where
  blind c x := by
    unfold placing
    rw [h.blind]
    cases r c <;> rfl
  forward c a c' hr := by
    unfold placing at hr
    split at hr
    · obtain ⟨rfl, rfl⟩ : _ ∧ _ := by simpa using hr
      exact h.forward (by assumption)
    · cases hr

protected theorem thenClose {r : Reader α} {after : Reader Unit} (h : Scans r)
    (hafter : Scans after) : Scans (thenClose r after) where
  blind c x := by
    unfold thenClose
    rw [h.blind]
    cases r c with
    | ok a c₁ =>
      simp only [shiftDepth, hafter.blind]
      cases after c₁ <;> rfl
    | error e c₁ =>
      simp only [shiftDepth, hafter.blind]
      cases after c₁ <;> rfl
  forward c a c' hr := by
    unfold thenClose at hr
    split at hr
    · split at hr
      · obtain ⟨rfl, rfl⟩ : _ ∧ _ := by simpa using hr
        obtain ⟨hs₁, hd₁⟩ := h.forward (by assumption)
        obtain ⟨hs₂, hd₂⟩ := hafter.forward (by assumption)
        exact ⟨hs₂.trans hs₁, hd₂.trans hd₁⟩
      · cases hr
    · split at hr <;> cases hr

protected theorem digits : Scans digits where
  blind _ _ := rfl
  forward c a c' h := by
    cases h
    exact ⟨List.drop_suffix _ _, rfl⟩

protected theorem hexEscape : Scans hexEscape where
  blind c x := by
    unfold hexEscape
    dsimp only [Cursor.withDepth]
    split <;> (try split) <;> rfl
  forward c a c' h := by
    unfold hexEscape at h
    split at h
    · split at h
      · rename_i heq _ _ _ _ _ _ _ _ _ _ _ _
        cases h
        rw [heq]
        exact ⟨List.suffix_cons_iff.2 (.inr (List.suffix_cons_iff.2 (.inr
          (List.suffix_cons_iff.2 (.inr (List.suffix_cons _ _)))))), rfl⟩
      · cases h
    · split at h <;> cases h

protected theorem float (p : Bool) (s : Nat) (e : Int) : Scans (float p s e) := by
  unfold float
  split
  · exact Scans.pure _
  · exact Scans.fail _

protected theorem exponentDigits (p sign : Bool) (s : Nat) (start : Int) :
    Scans (exponentDigits p sign s start) where
  blind c x := by
    unfold exponentDigits
    dsimp only [Cursor.withDepth]
    split
    · split <;> rfl
    · exact (Scans.float _ _ _).blind ⟨_, _, _, c.depth⟩ x
  forward c a c' h := by
    unfold exponentDigits at h
    dsimp only at h
    split at h
    · split at h
      · cases h
      · cases h
        exact ⟨(List.drop_suffix _ _).trans (List.drop_suffix _ _), rfl⟩
    · obtain ⟨hs, hd⟩ := (Scans.float _ _ _).forward h
      exact ⟨hs.trans (List.drop_suffix _ _), hd⟩

protected theorem literalRest : ∀ l : List Char, Scans (literalRest l)
  | [] => Scans.pure ()
  | ch :: l => by
    rw [literalRest]
    refine Scans.peek.bind fun o => ?_
    split
    · exact Scans.fail _
    · split
      · exact Scans.bump.bind fun _ => Scans.literalRest l
      · exact Scans.failAfterByte _

protected theorem unicodeEscape : Scans unicodeEscape := by
  unfold unicodeEscape
  refine Scans.hexEscape.bind fun n => ?_
  split
  · exact Scans.fail _
  · split
    · refine Scans.peek.bind fun o => ?_
      split
      · exact Scans.fail _
      · refine Scans.bump.bind fun _ => Scans.peek.bind fun o => ?_
        split
        · exact Scans.fail _
        · refine Scans.bump.bind fun _ => Scans.hexEscape.bind fun m => ?_
          split
          · exact Scans.pure _
          · exact Scans.fail _
        · exact Scans.failAfterByte _
      · exact Scans.failAfterByte _
    · exact Scans.pure _

protected theorem escape : Scans escape := by
  unfold escape
  refine Scans.peek.bind fun o => ?_
  split
  · exact Scans.fail _
  · split
    all_goals first
      | exact Scans.bump.bind fun _ => Scans.pure _
      | exact Scans.bump.bind fun _ => Scans.unicodeEscape
      | exact Scans.failAfterByte _

protected theorem stringBody : ∀ (fuel : Nat) (acc : List Char), Scans (stringBody fuel acc)
  | 0, _ => Scans.pure _
  | fuel + 1, acc => by
    rw [stringBody]
    refine Scans.peek.bind fun o => ?_
    split
    · exact Scans.fail _
    · exact Scans.bump.bind fun _ => Scans.pure _
    · exact Scans.bump.bind fun _ => Scans.escape.bind fun ch => Scans.stringBody fuel _
    · split
      · exact Scans.failAfterByte _
      · exact Scans.bump.bind fun _ => Scans.stringBody fuel _

protected theorem string : Scans string where
  blind c x := (Scans.stringBody (c.rest.length + 1) []).blind c x
  forward _ _ _ h := (Scans.stringBody _ []).forward h

protected theorem exponent (p : Bool) (s : Nat) (start : Int) : Scans (exponent p s start) := by
  unfold exponent
  refine Scans.bump.bind fun _ => Scans.peek.bind fun o => ?_
  dsimp only
  -- the sign, if any, then the digits
  split
  all_goals
    first
      | refine Scans.bump.bind fun _ => (Scans.pure _).bind fun sign => ?_
      | refine (Scans.pure _).bind fun sign => ?_
    refine Scans.peek.bind fun o => ?_
    split
    · exact Scans.fail _
    · split
      · exact Scans.failAfterByte _
      · exact Scans.exponentDigits _ _ _ _

protected theorem fraction (p : Bool) (s : Nat) (start : Int) : Scans (fraction p s start) := by
  unfold fraction
  refine Scans.bump.bind fun _ => Scans.digits.bind fun ds => ?_
  split
  · refine Scans.peek.bind fun o => ?_
    split
    · exact Scans.failNext _
    · exact Scans.failNext _
  · refine Scans.peek.bind fun o => ?_
    split
    · exact Scans.exponent _ _ _
    · exact Scans.exponent _ _ _
    · exact Scans.float _ _ _

protected theorem numberEnd (p : Bool) (s x : Nat) (e : Bool) : Scans (numberEnd p s x e) := by
  unfold numberEnd
  split_ifs
  · exact (Scans.float _ _ _).bind fun _ => Scans.pure _
  · exact Scans.pure _
  · exact Scans.pure _
  · exact Scans.pure _
  · exact (Scans.float _ _ _).bind fun _ => Scans.pure _

protected theorem numberTail (p : Bool) (s x : Nat) (e : Bool) : Scans (numberTail p s x e) := by
  unfold numberTail
  refine Scans.peek.bind fun o => ?_
  split
  · exact (Scans.fraction _ _ _).bind fun _ => Scans.pure _
  · exact (Scans.exponent _ _ _).bind fun _ => Scans.pure _
  · exact (Scans.exponent _ _ _).bind fun _ => Scans.pure _
  · exact Scans.numberEnd _ _ _ _

protected theorem number (p : Bool) : Scans (number p) := by
  unfold number
  refine Scans.peek.bind fun o => ?_
  split
  · exact Scans.fail _
  · refine Scans.bump.bind fun _ => Scans.peek.bind fun o => ?_
    split
    · split
      · exact Scans.failNext _
      · exact Scans.numberTail _ _ _ _
    · exact Scans.numberTail _ _ _ _
  · split
    · exact Scans.digits.bind fun _ => Scans.numberTail _ _ _ _
    · exact Scans.failAfterByte _

protected theorem literal (first : Char) : Scans (literal first) := by
  unfold literal
  split <;> exact Scans.literalRest _

protected theorem nextItem (first : Bool) : Scans (nextItem first) := by
  unfold nextItem
  refine Scans.skipBlank.bind fun o => ?_
  split
  · exact Scans.failNext _
  · exact Scans.pure _
  · split
    · exact Scans.pure _
    · refine Scans.bump.bind fun _ => Scans.skipBlank.bind fun o => ?_
      split
      · exact Scans.failNext _
      · exact Scans.pure _
      · exact Scans.failNext _
  · split
    · exact Scans.pure _
    · exact Scans.failNext _

protected theorem nextMember (first : Bool) : Scans (nextMember first) := by
  unfold nextMember
  refine Scans.skipBlank.bind fun o => ?_
  split
  · exact Scans.failNext _
  · exact Scans.pure _
  · split
    · exact Scans.failNext _
    · refine Scans.bump.bind fun _ => Scans.skipBlank.bind fun o => ?_
      split
      · exact Scans.pure _
      · exact Scans.failNext _
      · exact Scans.failNext _
      · exact Scans.failNext _
  · split
    · exact Scans.pure _
    · exact Scans.failNext _
  · split
    · exact Scans.failNext _
    · exact Scans.failNext _

protected theorem colon : Scans colon := by
  unfold colon
  refine Scans.skipBlank.bind fun o => ?_
  split
  · exact Scans.bump
  · exact Scans.failNext _
  · exact Scans.failNext _

protected theorem closeArray : Scans closeArray := by
  unfold closeArray
  refine Scans.skipBlank.bind fun o => ?_
  split
  · exact Scans.bump
  · refine Scans.bump.bind fun _ => Scans.skipBlank.bind fun o => ?_
    split
    · exact Scans.failNext _
    · exact Scans.failNext _
  · exact Scans.failNext _
  · exact Scans.failNext _

protected theorem closeObject : Scans closeObject := by
  unfold closeObject
  refine Scans.skipBlank.bind fun o => ?_
  split
  · exact Scans.bump
  · exact Scans.failNext _
  · exact Scans.failNext _
  · exact Scans.failNext _

protected theorem key : Scans key :=
  Scans.bump.bind fun _ => Scans.string

theorem items_of_document {d : Nat} (hd : Scans (document d)) :
    ∀ fuel first acc, Scans (documentItems d fuel first acc)
  | 0, _, _ => by
    rw [documentItems]
    exact Scans.pure _
  | fuel + 1, first, acc => by
    rw [documentItems]
    refine (Scans.nextItem first).bind fun b => ?_
    split
    · exact hd.bind fun _ => items_of_document hd fuel false _
    · exact Scans.pure _

theorem members_of_document {d : Nat} (hd : Scans (document d)) :
    ∀ fuel first acc, Scans (documentMembers d fuel first acc)
  | 0, _, _ => by
    rw [documentMembers]
    exact Scans.pure _
  | fuel + 1, first, acc => by
    rw [documentMembers]
    refine (Scans.nextMember first).bind fun b => ?_
    split
    · exact Scans.key.bind fun _ => Scans.colon.bind fun _ =>
        hd.bind fun _ => members_of_document hd fuel false _
    · exact Scans.pure _

protected theorem document (d : Nat) : Scans (document d) := by
  induction d using Nat.strong_induction_on with
  | _ d ih =>
  rw [Reader.document.eq_def]
  refine Scans.skipBlank.bind fun o => ?_
  split
  · exact Scans.failNext _
  · exact Scans.bump.bind fun _ => (Scans.literal _).bind fun _ => Scans.pure _
  · exact Scans.bump.bind fun _ => (Scans.literal _).bind fun _ => Scans.pure _
  · exact Scans.bump.bind fun _ => (Scans.literal _).bind fun _ => Scans.pure _
  · exact Scans.bump.bind fun _ => (Scans.number _).bind fun _ => Scans.pure _
  · exact Scans.bump.bind fun _ => Scans.string.bind fun _ => Scans.pure _
  · split
    · exact Scans.failNext _
    · exact Scans.failNext _
    · exact Scans.bump.bind fun _ => Scans.budget.bind fun n =>
        ((items_of_document (ih _ (by omega)) n true []).thenClose Scans.closeArray).bind
          fun _ => Scans.pure _
  · split
    · exact Scans.failNext _
    · exact Scans.failNext _
    · exact Scans.bump.bind fun _ => Scans.budget.bind fun n =>
        ((members_of_document (ih _ (by omega)) n true []).thenClose Scans.closeObject).bind
          fun _ => Scans.pure _
  · split
    · exact (Scans.number _).bind fun _ => Scans.pure _
    · exact Scans.failNext _

end Scans

/-- A scanning read with another nesting allowance is the same read. -/
theorem Scans.ok_withDepth {α : Type} {r : Reader α} (hr : Scans r) {c : Cursor} {x : Nat}
    {a : α} {c' : Cursor} : r (c.withDepth x) = .ok a c' ↔ ∃ c₀, r c = .ok a c₀ ∧ c' = c₀.withDepth x := by
  rw [hr.blind]
  cases r c with
  | ok a' c₀ =>
    simp only [shiftDepth, EStateM.Result.ok.injEq]
    constructor
    · rintro ⟨rfl, rfl⟩
      exact ⟨c₀, ⟨rfl, rfl⟩, rfl⟩
    · rintro ⟨c₁, ⟨rfl, rfl⟩, rfl⟩
      exact ⟨rfl, rfl⟩
  | error e c₀ => simp [shiftDepth]

theorem bind_run_congr {α β : Type} {x : Reader β} {f g : β → Reader α} {c : Cursor}
    (h : ∀ b c', x c = .ok b c' → f b c' = g b c') : (x >>= f) c = (x >>= g) c := by
  show EStateM.bind x f c = EStateM.bind x g c
  simp only [EStateM.bind]
  cases hx : x c with
  | ok b c' => exact h b c' hx
  | error e c' => rfl

theorem documentHere_bind {α : Type} (f : Json → Reader α) (c : Cursor) :
    (documentHere >>= f) c = (document c.depth >>= f) c := rfl

/-! ## A value is at least one character -/

theorem rest_of_peek {c : Cursor} {ch : Char} (hp : c.peek = some ch) :
    ∃ t, c.rest = ch :: t := by
  cases hc : c.rest with
  | nil => simp [Cursor.peek, hc] at hp
  | cons ch' t =>
    simp only [Cursor.peek, hc, List.head?_cons, Option.some.injEq] at hp
    exact ⟨t, by rw [hp]⟩

/-- A read that starts by reading the character that is there leaves less text. -/
theorem advances_of_bump {α : Type} {r : Reader α} (hr : Scans r) {c : Cursor} {ch : Char}
    (hp : c.peek = some ch) {a : α} {c' : Cursor} (h : (bump >>= fun _ => r) c = .ok a c') :
    c'.rest.length < c.rest.length := by
  obtain ⟨t, ht⟩ := rest_of_peek hp
  rw [bump_bind] at h
  have hs := ((hr.forward h).1).length_le
  rw [Cursor.bump_rest ht] at hs
  rw [ht, List.length_cons]
  omega

theorem number_advances {p : Bool} {c : Cursor} {ch : Char} (hp : c.peek = some ch)
    (hd : ch.isDigit = true) {n : JsonNumber} {c' : Cursor} (h : number p c = .ok n c') :
    c'.rest.length < c.rest.length := by
  rw [number, peek_bind, hp] at h
  by_cases h0 : ch = '0'
  · -- a leading zero is read on its own
    subst h0
    refine advances_of_bump (Scans.peek.bind fun o => ?_) hp h
    split
    · split
      · exact Scans.failNext _
      · exact Scans.numberTail _ _ _ _
    · exact Scans.numberTail _ _ _ _
  · erw [number.match_1.eq_3 _ _ _ _ _ h0] at h
    rw [if_pos hd] at h
    obtain ⟨ds, c₁, hds, htail⟩ := bind_run_inv h
    have hs := ((Scans.numberTail _ _ _ _).forward htail).1.length_le
    cases hds
    obtain ⟨t, ht⟩ := rest_of_peek hp
    simp only [ht, List.takeWhile_cons, hd, if_true, List.length_cons, List.drop_succ_cons,
      List.length_drop] at hs ⊢
    omega

/-- Reader `r`, run where the next character is `o`, leaves less text when it succeeds. -/
def AdvancesAt {α : Type} (o : Option Char) (r : Reader α) : Prop :=
  ∀ ⦃c : Cursor⦄ ⦃a : α⦄ ⦃c' : Cursor⦄, c.peek = o → r c = .ok a c' →
    c'.rest.length < c.rest.length

namespace AdvancesAt

variable {α β : Type} {o : Option Char}

protected theorem failNext (k : Fault) : AdvancesAt o (failNext k : Reader α) :=
  fun _ _ _ _ h => nomatch h

protected theorem bind {x : Reader β} {f : β → Reader α} (hx : AdvancesAt o x)
    (hf : ∀ b, Scans (f b)) : AdvancesAt o (x >>= f) := by
  intro c a c' hp h
  obtain ⟨b, c₁, hx₁, hf₁⟩ := bind_run_inv h
  have := ((hf b).forward hf₁).1.length_le
  have := hx hp hx₁
  omega

protected theorem bump_bind {ch : Char} {r : Reader α} (hr : Scans r) :
    AdvancesAt (some ch) (bump >>= fun _ => r) :=
  fun _ _ _ hp h => advances_of_bump hr hp h

protected theorem number {ch : Char} (hd : ch.isDigit = true) (p : Bool) :
    AdvancesAt (some ch) (number p) :=
  fun _ _ _ hp h => number_advances hp hd h

end AdvancesAt

theorem advances_of_skipBlank {α : Type} {f : Option Char → Reader α}
    (hf : ∀ o, AdvancesAt o (f o)) {c : Cursor} {a : α} {c' : Cursor}
    (h : (skipBlank >>= f) c = .ok a c') : c'.rest.length < c.rest.length := by
  rw [skipBlank_bind] at h
  have := (Cursor.skipBlank_go_suffix c.rest c.line c.column).length_le
  have := hf _ rfl h
  simp only [Cursor.skipBlank] at this ⊢
  omega

/-- Every value read leaves less text: a value is at least one character. -/
theorem document_advances {d : Nat} {c : Cursor} {j : Json} {c' : Cursor}
    (h : document d c = .ok j c') : c'.rest.length < c.rest.length := by
  rw [document.eq_def] at h
  refine advances_of_skipBlank (fun o => ?_) h
  split
  · exact AdvancesAt.failNext _
  all_goals first
    | exact AdvancesAt.bump_bind ((Scans.literal _).bind fun _ => Scans.pure _)
    | exact AdvancesAt.bump_bind ((Scans.number _).bind fun _ => Scans.pure _)
    | exact AdvancesAt.bump_bind (Scans.string.bind fun _ => Scans.pure _)
    | skip
  · split
    · exact AdvancesAt.failNext _
    · exact AdvancesAt.failNext _
    · exact AdvancesAt.bump_bind (Scans.budget.bind fun n =>
        ((Scans.items_of_document (Scans.document _) n true []).thenClose
          Scans.closeArray).bind fun _ => Scans.pure _)
  · split
    · exact AdvancesAt.failNext _
    · exact AdvancesAt.failNext _
    · exact AdvancesAt.bump_bind (Scans.budget.bind fun n =>
        ((Scans.members_of_document (Scans.document _) n true []).thenClose
          Scans.closeObject).bind fun _ => Scans.pure _)
  · split
    · exact (AdvancesAt.number (by assumption) true).bind fun _ => Scans.pure _
    · exact AdvancesAt.failNext _

/-! ## The loops over items and members -/

/-- The items read so far are put in front of the items read next. -/
theorem documentItems_acc (d : Nat) : ∀ fuel first acc,
    documentItems d fuel first acc = (acc.reverse ++ ·) <$> documentItems d fuel first []
  | 0, first, acc => by
    rw [documentItems, documentItems, map_pure, List.reverse_nil, List.append_nil]
  | fuel + 1, first, acc => by
    rw [documentItems, documentItems, map_bind]
    refine bind_congr fun b => ?_
    split
    · rw [map_bind]
      refine bind_congr fun j => ?_
      rw [documentItems_acc d fuel false (j :: acc), documentItems_acc d fuel false [j],
        ← comp_map]
      congr 1
      funext l
      simp
    · rw [map_pure, List.reverse_nil, List.append_nil]

/-- The members read so far are put in front of the members read next. -/
theorem documentMembers_acc (d : Nat) : ∀ fuel first acc,
    documentMembers d fuel first acc = (acc.reverse ++ ·) <$> documentMembers d fuel first []
  | 0, first, acc => by
    rw [documentMembers, documentMembers, map_pure, List.reverse_nil, List.append_nil]
  | fuel + 1, first, acc => by
    rw [documentMembers, documentMembers, map_bind]
    refine bind_congr fun b => ?_
    split
    · simp only [map_bind]
      refine bind_congr fun k => bind_congr fun _ => bind_congr fun v => ?_
      rw [documentMembers_acc d fuel false ((k, v) :: acc),
        documentMembers_acc d fuel false [(k, v)], ← comp_map]
      congr 1
      funext l
      simp
    · rw [map_pure, List.reverse_nil, List.append_nil]

/-- Any fuel beyond the length of the text reads an array's items alike. -/
theorem documentItems_fuel {d : Nat} : ∀ {m m' : Nat} {first : Bool} {acc : List Json}
    {c : Cursor}, c.rest.length < m → c.rest.length < m' →
    documentItems d m first acc c = documentItems d m' first acc c
  | 0, _, _, _, _, hm, _ => absurd hm (Nat.not_lt_zero _)
  | _, 0, _, _, _, _, hm' => absurd hm' (Nat.not_lt_zero _)
  | m + 1, m' + 1, first, acc, c, hm, hm' => by
    rw [documentItems, documentItems]
    refine bind_run_congr fun b c₁ hnext => ?_
    have h₁ := ((Scans.nextItem first).forward hnext).1.length_le
    split
    · refine bind_run_congr fun j c₂ hdoc => ?_
      have h₂ := document_advances hdoc
      exact documentItems_fuel (by omega) (by omega)
    · rfl

/-- Reading items by reading each value where it stands is reading the array's items. -/
theorem itemsOf_documentHere : ∀ (fuel : Nat) (first : Bool) (acc : List Json) (c : Cursor),
    itemsOf documentHere fuel first acc c = documentItems c.depth fuel first acc c
  | 0, first, acc, c => by rw [itemsOf, documentItems]
  | fuel + 1, first, acc, c => by
    rw [itemsOf, documentItems]
    refine bind_run_congr fun b c₁ hnext => ?_
    have hd₁ := ((Scans.nextItem first).forward hnext).2
    split
    · rw [documentHere_bind, hd₁]
      refine bind_run_congr fun j c₂ hdoc => ?_
      rw [itemsOf_documentHere fuel false _ c₂, ((Scans.document _).forward hdoc).2, hd₁]
    · rfl

/-! ## What a value read says about the text -/

theorem thenClose_inv {α : Type} {r : Reader α} {after : Reader Unit} {c : Cursor} {a : α}
    {c' : Cursor} (h : thenClose r after c = .ok a c') :
    ∃ c₁, r c = .ok a c₁ ∧ after c₁ = .ok () c' := by
  unfold thenClose at h
  split at h
  · rename_i c₁ hr
    split at h
    · obtain ⟨rfl, rfl⟩ : _ ∧ _ := by simpa using h
      exact ⟨c₁, hr, by assumption⟩
    · cases h
  · split at h <;> cases h

/-- **What a value read says about the text.** A string is read after a quote, an array after
`[` and an object after `{`, each within the nesting allowance; anything else is a scalar. -/
theorem document_ok_inv {d : Nat} {c : Cursor} {j : Json} {c' : Cursor}
    (h : document d c = .ok j c') :
    (c.skipBlank.peek = some '"' ∧ ∃ t, j = .str t ∧ string c.skipBlank.bump = .ok t c') ∨
    (c.skipBlank.peek = some '[' ∧ ∃ e items c₁, d = e + 2 ∧ j = .arr items ∧
      documentItems (e + 1) (c.skipBlank.bump.rest.length + 1) true [] c.skipBlank.bump =
        .ok items c₁ ∧ closeArray c₁ = .ok () c') ∨
    (c.skipBlank.peek = some '{' ∧ ∃ e ms c₁, d = e + 2 ∧ j = .obj ms ∧
      documentMembers (e + 1) (c.skipBlank.bump.rest.length + 1) true [] c.skipBlank.bump =
        .ok ms c₁ ∧ closeObject c₁ = .ok () c') ∨
    (j = .null ∨ (∃ b, j = .bool b) ∨ ∃ n, j = .num n) := by
  rw [document.eq_def, skipBlank_bind] at h
  revert h
  generalize c.skipBlank.peek = o
  have hlit : ∀ {l : Char} {v : Json},
      (bump >>= fun _ => literal l >>= fun _ => pure v : Reader Json) c.skipBlank = .ok j c' →
      j = v := by
    intro l v h
    obtain ⟨_, _, -, h⟩ := bind_run_inv h
    obtain ⟨_, _, -, h⟩ := bind_run_inv h
    exact (EStateM.Result.ok.inj h).1.symm
  split
  · intro h
    cases h
  · exact fun h => .inr (.inr (.inr (.inl (hlit h))))
  · exact fun h => .inr (.inr (.inr (.inr (.inl ⟨true, hlit h⟩))))
  · exact fun h => .inr (.inr (.inr (.inr (.inl ⟨false, hlit h⟩))))
  · intro h
    rw [bump_bind] at h
    obtain ⟨n, _, -, h⟩ := bind_run_inv h
    exact .inr (.inr (.inr (.inr (.inr ⟨n, (EStateM.Result.ok.inj h).1.symm⟩))))
  · intro h
    rw [bump_bind] at h
    obtain ⟨t, c₁, hs, h⟩ := bind_run_inv h
    obtain ⟨rfl, rfl⟩ : Json.str t = j ∧ c₁ = c' := EStateM.Result.ok.inj h
    exact .inl ⟨rfl, t, rfl, hs⟩
  · split
    · intro h
      cases h
    · intro h
      cases h
    · rename_i e
      intro h
      rw [bump_bind, bind_run_ok (budget_run _)] at h
      obtain ⟨items, c₁, hitems, h⟩ := bind_run_inv h
      obtain ⟨rfl, rfl⟩ : Json.arr items = j ∧ c₁ = c' := EStateM.Result.ok.inj h
      obtain ⟨c₂, hread, hclose⟩ := thenClose_inv hitems
      exact .inr (.inl ⟨rfl, e, items, c₂, rfl, rfl, hread, hclose⟩)
  · split
    · intro h
      cases h
    · intro h
      cases h
    · rename_i e
      intro h
      rw [bump_bind, bind_run_ok (budget_run _)] at h
      obtain ⟨ms, c₁, hms, h⟩ := bind_run_inv h
      obtain ⟨rfl, rfl⟩ : Json.obj ms = j ∧ c₁ = c' := EStateM.Result.ok.inj h
      obtain ⟨c₂, hread, hclose⟩ := thenClose_inv hms
      exact .inr (.inr (.inl ⟨rfl, e, ms, c₂, rfl, rfl, hread, hclose⟩))
  · split
    · intro h
      obtain ⟨n, _, -, h⟩ := bind_run_inv h
      exact .inr (.inr (.inr (.inr (.inr ⟨n, (EStateM.Result.ok.inj h).1.symm⟩))))
    · intro h
      cases h

theorem document_of_quote (d : Nat) {c : Cursor} {t : String} {c' : Cursor}
    (hp : c.skipBlank.peek = some '"') (hs : string c.skipBlank.bump = .ok t c') :
    document d c = .ok (.str t) c' := by
  rw [document.eq_def, skipBlank_bind, hp]
  show (bump >>= fun _ => string >>= fun s => pure (Json.str s) : Reader Json) c.skipBlank = _
  rw [bump_bind, bind_run_ok hs]
  rfl

/-- **A string value is read only at a quote**, and it is the string read after it. -/
theorem document_str_inv {d : Nat} {c : Cursor} {t : String} {c' : Cursor}
    (h : document d c = .ok (.str t) c') :
    c.skipBlank.peek = some '"' ∧ string c.skipBlank.bump = .ok t c' := by
  rcases document_ok_inv h with ⟨hp, t', ht, hs⟩ | ⟨-, _, _, _, -, hj, -⟩ | ⟨-, _, _, _, -, hj, -⟩ | hj
  · cases ht
    exact ⟨hp, hs⟩
  · cases hj
  · cases hj
  · rcases hj with hj | ⟨_, hj⟩ | ⟨_, hj⟩ <;> cases hj

/-- A whole text is read when the read ends where only blanks are left. -/
theorem run_ok_iff {α : Type} {r : Reader α} {s : String} {a : α} :
    run r s = .ok a ↔ ∃ c₁, r (Cursor.start s) = .ok a c₁ ∧ c₁.skipBlank.peek = none := by
  refine ⟨run_ok_inv, fun ⟨c₁, h, hend⟩ => ?_⟩
  unfold run
  dsimp only
  rw [bind_run_ok h, skipBlank_bind, hend]
  rfl

theorem placing_inv {α : Type} {r : Reader α} {c : Cursor} {a : α} {c' : Cursor}
    (h : placing r c = .ok a c') : r c = .ok a c' := by
  unfold placing at h
  split at h
  · obtain ⟨rfl, rfl⟩ : _ ∧ _ := by simpa using h
    assumption
  · cases h

end Reader

end MarketChat
