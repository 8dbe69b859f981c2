import MarketChat.Proofs.DocumentScan
import MarketChat.Proofs.ReadResults
import MarketChat.Proofs.CacheBlob
import MarketChat.Chat.Frame
/-!
# Decoding a pushed frame

A frame has a reader of its own, `InboundFrame.tagged`. At an object it takes the `type` member
aside as the kind, reading its value as a string, and keeps the other members as written; at an
array it takes the first item as the kind and keeps the items after it. This module shows that
the frame reader is the value reader followed by a split of the value: a text decodes to a frame
exactly when it reads as a value that names a kind (`InboundFrame.tagOf`), an object whose only
`type` member is a string or an array whose first item is a string, and the fields left fit that
kind (`InboundFrame.decode_ok_iff`).

The proof runs the two readers side by side over the same text. Over an object's members the
relation is `KindSeen`: the kind taken aside so far is what the `type` members read so far say,
and the members kept are the others (`documentMembers_of_taggedMembers`,
`taggedMembers_of_documentMembers`). Over an array the frame reader takes a fresh budget after
the kind, which reads the items alike (`taggedItems_ok_iff`). Where the frame reader opens a level
on the cursor, the value reader passes a smaller allowance down; the two read alike because the
value reader does not look at the cursor's allowance.

A consequence is that arrays decode: `["server_stats"]` is a frame of no known kind.

Main statements: `InboundFrame.decode_ok_iff`, `InboundFrame.document_of_tagged`,
`InboundFrame.tagged_of_document`.
-/

namespace MarketChat

namespace Reader

/-- Opening a level leaves one level less of an allowance of at least two. -/
theorem enter_inv {c : Cursor} {u : Unit} {c' : Cursor} (h : enter c = .ok u c') :
    ∃ e, c.depth = e + 2 ∧ c' = c.withDepth (e + 1) := by
  unfold enter at h
  split at h
  · cases h
  · refine ⟨c.depth - 2, by omega, ?_⟩
    rw [← (EStateM.Result.ok.inj h).2]
    show c.withDepth (c.depth - 1) = _
    congr 1
    omega

theorem enter_of_depth {c : Cursor} {e : Nat} (h : c.depth = e + 2) :
    enter c = .ok () (c.withDepth (e + 1)) := by
  rw [enter_ok (by omega), h]
  rfl

end Reader

namespace InboundFrame

open Reader

/-! ## The kind -/

theorem readKind_inv {c : Cursor} {k : Kind} {c' : Cursor} (h : readKind c = .ok k c') :
    ∃ t, c.skipBlank.peek = some '"' ∧ string c.skipBlank.bump = .ok t c' ∧ k = .ofName t := by
  unfold readKind at h
  replace h := placing_inv h
  rw [skipBlank_bind] at h
  revert h
  generalize c.skipBlank.peek = o
  split
  · intro h
    cases h
  · intro h
    rw [bump_bind] at h
    obtain ⟨t, hs, rfl⟩ := map_run_inv h
    exact ⟨t, rfl, hs, rfl⟩
  · intro h
    exact (mismatch_yields _ (fun _ => False) h).elim

theorem readKind_of_quote {c : Cursor} {t : String} {c' : Cursor}
    (hp : c.skipBlank.peek = some '"') (hs : string c.skipBlank.bump = .ok t c') :
    readKind c = .ok (.ofName t) c' := by
  unfold readKind
  refine placing_ok ?_
  rw [skipBlank_bind, hp]
  show (bump >>= fun _ => string >>= fun s => pure (Kind.ofName s) : Reader Kind) c.skipBlank = _
  rw [bump_bind, bind_run_ok hs]
  rfl

/-- **The kind is read where a string value is**, and is the kind that string names. -/
theorem readKind_ok_iff (d : Nat) {c : Cursor} {k : Kind} {c' : Cursor} :
    readKind c = .ok k c' ↔ ∃ t, Reader.document d c = .ok (.str t) c' ∧ k = .ofName t := by
  constructor
  · intro h
    obtain ⟨t, hp, hs, rfl⟩ := readKind_inv h
    exact ⟨t, document_of_quote d hp hs, rfl⟩
  · rintro ⟨t, hdoc, rfl⟩
    obtain ⟨hp, hs⟩ := document_str_inv hdoc
    exact readKind_of_quote hp hs

/-! ## An object's members -/

/-- What the `type` members read so far say: none yet, or one string, naming the kind. -/
def KindSeen : Option Kind → List (String × Json) → Prop
  | none, ms => ms.filter (·.1 = "type") = []
  | some k, ms => ∃ t, ms.filter (·.1 = "type") = [("type", .str t)] ∧ k = .ofName t

theorem kindSeen_reverse {kind : Option Kind} {ms : List (String × Json)} :
    KindSeen kind ms.reverse ↔ KindSeen kind ms := by
  cases kind with
  | none => simp [KindSeen, List.filter_reverse]
  | some k =>
    simp only [KindSeen, List.filter_reverse, List.reverse_eq_cons_iff, List.reverse_nil,
      List.nil_append]

theorem kindSeen_cons_other {kind : Option Kind} {k : String} (hk : k ≠ "type") (v : Json)
    {ms : List (String × Json)} : KindSeen kind ((k, v) :: ms) ↔ KindSeen kind ms := by
  cases kind <;> simp [KindSeen, hk]

theorem kindSeen_unique {kind : Option Kind} {k : Kind} {ms : List (String × Json)}
    (h : KindSeen kind ms) (h' : KindSeen (some k) ms) : kind = some k := by
  obtain ⟨t, ht, rfl⟩ := h'
  cases kind with
  | none => simp [KindSeen, ht] at h
  | some k' =>
    obtain ⟨t', ht', rfl⟩ := h
    rw [ht] at ht'
    simp only [List.cons.injEq, Prod.mk.injEq, Json.str.injEq, and_true, true_and] at ht'
    rw [ht']

theorem kindSeen_cons_type {t : String} {ms : List (String × Json)} (h : KindSeen none ms) :
    KindSeen (some (.ofName t)) (("type", .str t) :: ms) :=
  ⟨t, by simp only [KindSeen] at h; simp [h], rfl⟩

/-- A second `type` member leaves no kind. -/
theorem kindSeen_twice {k k₀ : Kind} {v : Json} {accD more : List (String × Json)}
    (h₀ : KindSeen (some k₀) accD) (h : KindSeen (some k) ((("type", v) :: accD).reverse ++ more)) :
    False := by
  obtain ⟨t₀, ht₀, -⟩ := h₀
  obtain ⟨t, ht, -⟩ := h
  simp [List.filter_append, List.filter_reverse, ht₀] at ht

/-- The only `type` member names the kind by a string. -/
theorem kindSeen_first {k : Kind} {v : Json} {accD more : List (String × Json)}
    (h₀ : KindSeen none accD) (h : KindSeen (some k) ((("type", v) :: accD).reverse ++ more)) :
    ∃ t, v = .str t := by
  obtain ⟨t, ht, -⟩ := h
  simp only [KindSeen] at h₀
  simp [List.filter_append, List.filter_reverse, h₀] at ht
  exact ⟨t, ht.1⟩

/-- **The frame's members, read as a document's.** What the frame reader takes aside as the
kind and what it keeps are the `type` members of the members read as written, and the others. -/
theorem documentMembers_of_taggedMembers (fuel : Nat) : ∀ {first : Bool}
    {kind kind' : Option Kind} {acc accD ms : List (String × Json)} {c c' : Cursor},
    acc = accD.filter (·.1 ≠ "type") → KindSeen kind accD →
    taggedMembers fuel first kind acc c = .ok (kind', ms) c' →
    ∃ msD, Reader.documentMembers c.depth fuel first accD c = .ok msD c' ∧
      KindSeen kind' msD ∧ ms = msD.filter (·.1 ≠ "type") := by
  induction fuel with
  | zero =>
    intro first kind kind' acc accD ms c c' hacc hkind h
    rw [taggedMembers] at h
    obtain ⟨⟨rfl, rfl⟩, rfl⟩ : (kind = kind' ∧ acc.reverse = ms) ∧ c = c' := by simpa using h
    exact ⟨accD.reverse, by rw [documentMembers]; rfl, kindSeen_reverse.2 hkind,
      by rw [hacc, List.filter_reverse]⟩
  | succ fuel ih =>
    intro first kind kind' acc accD ms c c' hacc hkind h
    unfold taggedMembers at h
    obtain ⟨b, c₁, hnext, h⟩ := bind_run_inv h
    have hd₁ := ((Scans.nextMember first).forward hnext).2
    rw [documentMembers, bind_run_ok hnext]
    cases b with
    | false =>
      obtain ⟨⟨rfl, rfl⟩, rfl⟩ : (kind = kind' ∧ acc.reverse = ms) ∧ c₁ = c' := by simpa using h
      exact ⟨accD.reverse, rfl, kindSeen_reverse.2 hkind, by rw [hacc, List.filter_reverse]⟩
    | true =>
      obtain ⟨k, c₂, hkey, h⟩ := bind_run_inv h
      have hd₂ := (Scans.key.forward hkey).2
      simp only [if_true]
      rw [bind_run_ok hkey]
      by_cases hk : k = "type"
      · -- the first `type` member: its value is read as the kind
        subst hk
        rw [if_pos rfl] at h
        cases kind with
        | some _ => cases h
        | none =>
          obtain ⟨_, c₃, hcolon, h⟩ := bind_run_inv h
          obtain ⟨kd, c₄, hkd, h⟩ := bind_run_inv h
          obtain ⟨t, hdoc, rfl⟩ := (readKind_ok_iff c.depth).1 hkd
          have hd₃ := (Scans.colon.forward hcolon).2
          have hd₄ := ((Scans.document _).forward hdoc).2
          obtain ⟨msD, hrest, hseen, hms⟩ :=
            ih (by simp [hacc]) (kindSeen_cons_type (t := t) hkind) h
          refine ⟨msD, ?_, hseen, hms⟩
          rw [bind_run_ok hcolon, bind_run_ok hdoc]
          rwa [hd₄, hd₃, hd₂, hd₁] at hrest
      · -- any other member is read as written and kept
        rw [if_neg hk] at h
        obtain ⟨_, c₃, hcolon, h⟩ := bind_run_inv h
        obtain ⟨v, c₄, hv, h⟩ := bind_run_inv h
        have hd₃ := (Scans.colon.forward hcolon).2
        change Reader.document c₃.depth c₃ = _ at hv
        have hd₄ := ((Scans.document _).forward hv).2
        rw [hd₃, hd₂, hd₁] at hv
        obtain ⟨msD, hrest, hseen, hms⟩ :=
          ih (by simp [hacc, hk]) ((kindSeen_cons_other hk v).2 hkind) h
        refine ⟨msD, ?_, hseen, hms⟩
        rw [bind_run_ok hcolon, bind_run_ok hv]
        rwa [hd₄, hd₃, hd₂, hd₁] at hrest

/-- **The members read as a document, read by the frame reader.** When the members read as
written hold one `type` member, a string, the frame reader reads the same text to that kind
and the other members. -/
theorem taggedMembers_of_documentMembers (fuel : Nat) : ∀ {first : Bool}
    {kind : Option Kind} {acc accD msD : List (String × Json)} {c c' : Cursor} {k : Kind},
    acc = accD.filter (·.1 ≠ "type") → KindSeen kind accD →
    Reader.documentMembers c.depth fuel first accD c = .ok msD c' → KindSeen (some k) msD →
    taggedMembers fuel first kind acc c = .ok (some k, msD.filter (·.1 ≠ "type")) c' := by
  induction fuel with
  | zero =>
    intro first kind acc accD msD c c' k hacc hkind h hseen
    rw [documentMembers] at h
    obtain ⟨rfl, rfl⟩ : accD.reverse = msD ∧ c = c' := by simpa using h
    obtain rfl := kindSeen_unique hkind (kindSeen_reverse.1 hseen)
    rw [taggedMembers, hacc, List.filter_reverse]
    rfl
  | succ fuel ih =>
    intro first kind acc accD msD c c' k hacc hkind h hseen
    rw [documentMembers] at h
    obtain ⟨b, c₁, hnext, h⟩ := bind_run_inv h
    have hd₁ := ((Scans.nextMember first).forward hnext).2
    unfold taggedMembers
    rw [bind_run_ok hnext]
    cases b with
    | false =>
      obtain ⟨rfl, rfl⟩ : accD.reverse = msD ∧ c₁ = c' := by simpa using h
      obtain rfl := kindSeen_unique hkind (kindSeen_reverse.1 hseen)
      simp [hacc, List.filter_reverse]
    | true =>
      simp only [if_true] at h ⊢
      obtain ⟨kk, c₂, hkey, h⟩ := bind_run_inv h
      obtain ⟨_, c₃, hcolon, h⟩ := bind_run_inv h
      obtain ⟨v, c₄, hv, h⟩ := bind_run_inv h
      have hd₂ := (Scans.key.forward hkey).2
      have hd₃ := (Scans.colon.forward hcolon).2
      have hd₄ := ((Scans.document _).forward hv).2
      have hd : c₄.depth = c.depth := hd₄.trans (hd₃.trans (hd₂.trans hd₁))
      rw [← hd] at h
      rw [bind_run_ok hkey]
      by_cases hk : kk = "type"
      · -- a `type` member: the first is read as the kind, a second one fails
        subst hk
        rw [if_pos rfl]
        obtain ⟨more, -, rfl⟩ := map_run_inv (documentMembers_acc _ _ _ _ ▸ h)
        cases kind with
        | some k₀ => exact (kindSeen_twice hkind hseen).elim
        | none =>
          obtain ⟨t, rfl⟩ := kindSeen_first hkind hseen
          have hkd : readKind c₃ = .ok (.ofName t) c₄ := (readKind_ok_iff c.depth).2 ⟨t, hv, rfl⟩
          show (colon >>= fun _ => readKind >>= fun t => taggedMembers fuel false (some t) acc) c₂ = _
          rw [bind_run_ok hcolon, bind_run_ok hkd]
          exact ih (by simp [hacc]) (kindSeen_cons_type hkind) h hseen
      · -- any other member is kept as written
        rw [if_neg hk, bind_run_ok hcolon]
        have hv' : documentHere c₃ = .ok v c₄ := by
          show Reader.document c₃.depth c₃ = _
          rwa [hd₃, hd₂, hd₁]
        rw [bind_run_ok hv']
        exact ih (by simp [hacc, hk]) ((kindSeen_cons_other hk v).2 hkind) h hseen

/-! ## An array's items -/

/-- The items after the first, read each where it stands with a fresh budget, are the
array's items after the first. -/
theorem itemsOf_documentHere_iff {d L : Nat} {j : Json} {c c' : Cursor} {items : List Json}
    (hd : c.depth = d) (hL : c.rest.length < L) :
    itemsOf documentHere (c.rest.length + 1) false [] c = .ok items c' ↔
      Reader.documentItems d L false [j] c = .ok (j :: items) c' := by
  rw [itemsOf_documentHere, hd, documentItems_fuel (Nat.lt_succ_self _) hL,
    documentItems_acc d L false [j]]
  constructor
  · intro h
    rw [map_run_ok h]
    rfl
  · intro h
    obtain ⟨more, hmore, heq⟩ := map_run_inv h
    obtain rfl : more = items := by simpa using heq
    exact hmore

/-- **The frame's items, read as a document's.** The frame reader reads the kind and the items
after it exactly where the items read as written start with a string. -/
theorem taggedItems_ok_iff {c : Cursor} {k : Kind} {items : List Json} {c' : Cursor} :
    taggedItems c = .ok (k, items) c' ↔
      ∃ t, Reader.documentItems c.depth (c.rest.length + 1) true [] c = .ok (.str t :: items) c' ∧
        k = .ofName t := by
  constructor
  · intro h
    unfold taggedItems at h
    obtain ⟨b, c₁, hnext, h⟩ := bind_run_inv h
    have hs₁ := ((Scans.nextItem true).forward hnext)
    cases b with
    | false => cases h
    | true =>
      simp only [if_true] at h
      obtain ⟨kd, c₂, hkd, h⟩ := bind_run_inv h
      obtain ⟨t, hdoc, rfl⟩ := (readKind_ok_iff c.depth).1 hkd
      rw [bind_run_ok (budget_run _)] at h
      obtain ⟨rest, c₃, hitems, h⟩ := bind_run_inv h
      obtain ⟨⟨rfl, rfl⟩, rfl⟩ : (Kind.ofName t = k ∧ rest = items) ∧ c₃ = c' := by
        simpa using h
      have hlen := document_advances hdoc
      have hd₂ := ((Scans.document _).forward hdoc).2
      refine ⟨t, ?_, rfl⟩
      rw [documentItems, bind_run_ok hnext, if_pos rfl, bind_run_ok hdoc]
      exact (itemsOf_documentHere_iff (hd₂.trans hs₁.2) (by
        have := hs₁.1.length_le
        omega)).1 hitems
  · rintro ⟨t, h, rfl⟩
    rw [documentItems] at h
    obtain ⟨b, c₁, hnext, h⟩ := bind_run_inv h
    have hs₁ := ((Scans.nextItem true).forward hnext)
    cases b with
    | false => simp at h
    | true =>
      simp only [if_true] at h
      obtain ⟨j, c₂, hdoc, h⟩ := bind_run_inv h
      have hlen := document_advances hdoc
      have hd₂ := ((Scans.document _).forward hdoc).2
      obtain ⟨more, -, heq⟩ := map_run_inv (documentItems_acc _ _ _ _ ▸ h)
      obtain ⟨rfl, rfl⟩ : j = .str t ∧ more = items := by simpa using heq
      have hitems := (itemsOf_documentHere_iff (hd₂.trans hs₁.2) (by
        have := hs₁.1.length_le
        omega)).2 h
      unfold taggedItems
      rw [bind_run_ok hnext, if_pos rfl, bind_run_ok ((readKind_ok_iff c.depth).2 ⟨t, hdoc, rfl⟩),
        bind_run_ok (budget_run _), bind_run_ok hitems]
      rfl

/-! ## The frame reader -/

/-- The kind a value names under the frame's tagging, with what is left for the kind's fields:
an object whose only `type` member is a string gives its other members, and an array whose first
item is a string gives the items after it. No other value names a kind. -/
def tagOf : Json → Option (Kind × Json)
  | .obj ms =>
    match ms.filter (·.1 = "type") with
    | [(_, .str t)] => some (.ofName t, .obj (ms.filter (·.1 ≠ "type")))
    | _ => none
  | .arr (.str t :: items) => some (.ofName t, .arr items)
  | _ => none

theorem tagOf_obj_iff {ms : List (String × Json)} {k : Kind} {body : Json} :
    tagOf (.obj ms) = some (k, body) ↔
      KindSeen (some k) ms ∧ body = .obj (ms.filter (·.1 ≠ "type")) := by
  simp only [tagOf]
  split
  · rename_i key t heq
    have hkey : key = "type" := by
      have hmem : (key, Json.str t) ∈ ms.filter (·.1 = "type") := by
        rw [heq]
        exact List.mem_singleton_self _
      simpa using List.of_mem_filter hmem
    subst hkey
    constructor
    · rintro ⟨⟩
      exact ⟨⟨t, heq, rfl⟩, rfl⟩
    · rintro ⟨⟨t', ht', rfl⟩, rfl⟩
      rw [heq] at ht'
      simp only [List.cons.injEq, Prod.mk.injEq, Json.str.injEq, true_and, and_true] at ht'
      rw [ht']
  · rename_i hnot
    simp only [reduceCtorEq, false_iff, not_and]
    rintro ⟨t, ht, -⟩ -
    exact hnot "type" t ht

theorem tagOf_arr_iff {items : List Json} {k : Kind} {body : Json} :
    tagOf (.arr items) = some (k, body) ↔
      ∃ t rest, items = .str t :: rest ∧ k = .ofName t ∧ body = .arr rest := by
  match items with
  | .str t :: rest =>
    simp only [tagOf, Option.some.injEq, Prod.mk.injEq, List.cons.injEq, Json.str.injEq]
    constructor
    · rintro ⟨rfl, rfl⟩
      exact ⟨t, rest, ⟨rfl, rfl⟩, rfl, rfl⟩
    · rintro ⟨t', rest', ⟨rfl, rfl⟩, rfl, rfl⟩
      exact ⟨rfl, rfl⟩
  | [] => simp [tagOf]
  | .null :: _ => simp [tagOf]
  | .bool _ :: _ => simp [tagOf]
  | .num _ :: _ => simp [tagOf]
  | .arr _ :: _ => simp [tagOf]
  | .obj _ :: _ => simp [tagOf]

example : tagOf (.obj [("user_id", .str "7"), ("type", .str "typing")]) =
    some (.typing, .obj [("user_id", .str "7")]) := by
  rfl

/-- **A frame read is a value read.** Whatever the frame reader reads, the value reader reads
the same text to a value that names that kind, with the same fields left. -/
theorem document_of_tagged {c : Cursor} {k : Kind} {body : Json} {c' : Cursor}
    (h : tagged c = .ok (k, body) c') :
    ∃ j, Reader.document c.depth c = .ok j c' ∧ tagOf j = some (k, body) := by
  unfold tagged at h
  replace h := placing_inv h
  rw [skipBlank_bind] at h
  revert h
  generalize hp : c.skipBlank.peek = o
  split
  · intro h
    cases h
  · -- an object: its members are read as the value's, the kind taken aside
    intro h
    obtain ⟨_, c₁, henter, h⟩ := bind_run_inv h
    obtain ⟨e, hD, rfl⟩ := enter_inv henter
    rw [Cursor.skipBlank_depth] at hD
    rw [bump_bind, bind_run_ok (budget_run _)] at h
    obtain ⟨c₂, hin, hclose⟩ := thenClose_inv h
    obtain ⟨⟨kind, members⟩, c₃, hm, hin⟩ := bind_run_inv hin
    dsimp only at hin
    rw [bind_run_ok (leave_run _)] at hin
    cases kind with
    | none => cases hin
    | some k' =>
      obtain ⟨⟨rfl, rfl⟩, rfl⟩ : (k' = k ∧ Json.obj members = body) ∧ _ := by simpa using hin
      obtain ⟨msD, hdoc, hseen, rfl⟩ := documentMembers_of_taggedMembers _
        (show [] = ([] : List (String × Json)).filter (·.1 ≠ "type") from rfl)
        (show KindSeen none [] from rfl) hm
      simp only [Cursor.bump_withDepth, Cursor.rest_withDepth, Cursor.depth_withDepth] at hdoc
      obtain ⟨c₄, hread, rfl⟩ :=
        ((Scans.members_of_document (Scans.document _) _ _ _).ok_withDepth).1 hdoc
      have hd₄ : c₄.depth = e + 2 :=
        ((Scans.members_of_document (Scans.document _) _ _ _).forward hread).2.trans
          ((Cursor.bump_depth _).trans hD)
      -- leaving the object gives the allowance back
      have hclose' : closeObject c₄ = .ok () c' := by
        rw [← Cursor.withDepth_eq_self hd₄]
        exact hclose
      refine ⟨.obj msD, ?_, tagOf_obj_iff.2 ⟨hseen, rfl⟩⟩
      rw [hD, Reader.document.eq_def, skipBlank_bind, hp]
      show (bump >>= fun _ => budget >>= fun n =>
        thenClose (Reader.documentMembers (e + 1) n true []) closeObject >>= fun members =>
          pure (Json.obj members) : Reader Json) c.skipBlank = _
      rw [bump_bind, bind_run_ok (budget_run _), bind_run_ok (thenClose_ok hread hclose')]
      rfl
  · -- an array: its first item is the kind, the others are read as the value's
    intro h
    obtain ⟨_, c₁, henter, h⟩ := bind_run_inv h
    obtain ⟨e, hD, rfl⟩ := enter_inv henter
    rw [Cursor.skipBlank_depth] at hD
    rw [bump_bind] at h
    obtain ⟨c₂, hin, hclose⟩ := thenClose_inv h
    obtain ⟨⟨k', items⟩, c₃, hti, hin⟩ := bind_run_inv hin
    dsimp only at hin
    rw [bind_run_ok (leave_run _)] at hin
    obtain ⟨⟨rfl, rfl⟩, rfl⟩ : (k' = k ∧ Json.arr items = body) ∧ _ := by simpa using hin
    obtain ⟨t, hdoc, rfl⟩ := taggedItems_ok_iff.1 hti
    simp only [Cursor.bump_withDepth, Cursor.rest_withDepth, Cursor.depth_withDepth] at hdoc
    obtain ⟨c₄, hread, rfl⟩ :=
      ((Scans.items_of_document (Scans.document _) _ _ _).ok_withDepth).1 hdoc
    have hd₄ : c₄.depth = e + 2 :=
      ((Scans.items_of_document (Scans.document _) _ _ _).forward hread).2.trans
        ((Cursor.bump_depth _).trans hD)
    have hclose' : closeArray c₄ = .ok () c' := by
      rw [← Cursor.withDepth_eq_self hd₄]
      exact hclose
    refine ⟨.arr (.str t :: items), ?_, tagOf_arr_iff.2 ⟨t, items, rfl, rfl, rfl⟩⟩
    rw [hD, Reader.document.eq_def, skipBlank_bind, hp]
    show (bump >>= fun _ => budget >>= fun n =>
      thenClose (Reader.documentItems (e + 1) n true []) closeArray >>= fun items =>
        pure (Json.arr items) : Reader Json) c.skipBlank = _
    rw [bump_bind, bind_run_ok (budget_run _), bind_run_ok (thenClose_ok hread hclose')]
    rfl
  · intro h
    exact (mismatch_yields _ (fun _ => False) h).elim

/-- **A value read is a frame read** when the value names a kind: the frame reader reads the
same text to that kind and the fields left. -/
theorem tagged_of_document {c : Cursor} {j : Json} {c' : Cursor} {k : Kind} {body : Json}
    (h : Reader.document c.depth c = .ok j c') (htag : tagOf j = some (k, body)) :
    tagged c = .ok (k, body) c' := by
  unfold tagged
  refine placing_ok ?_
  rw [skipBlank_bind]
  rcases document_ok_inv h with ⟨-, t, rfl, -⟩ | ⟨hp, e, items, c₁, hD, rfl, hread, hclose⟩ |
      ⟨hp, e, ms, c₁, hD, rfl, hread, hclose⟩ | hj
  · simp [tagOf] at htag
  · -- an array whose first item is a string
    obtain ⟨t, rest, rfl, rfl, rfl⟩ := tagOf_arr_iff.1 htag
    have hd₁ : c₁.depth = e + 2 :=
      ((Scans.items_of_document (Scans.document _) _ _ _).forward hread).2.trans
        ((Cursor.bump_depth _).trans hD)
    have hitems : taggedItems (c.skipBlank.bump.withDepth (e + 1)) =
        .ok (.ofName t, rest) (c₁.withDepth (e + 1)) :=
      taggedItems_ok_iff.2 ⟨t, ((Scans.items_of_document (Scans.document _) _ _ _).ok_withDepth).2
        ⟨c₁, hread, rfl⟩, rfl⟩
    generalize hp' : c.skipBlank.peek = o
    split
    · simp_all
    · simp_all
    · rw [bind_run_ok (enter_of_depth (show c.skipBlank.depth = e + 2 from hD)), bump_bind,
        Cursor.bump_withDepth]
      refine thenClose_ok ?_ hclose
      rw [bind_run_ok hitems]
      show (leave >>= fun _ => pure _) _ = _
      rw [bind_run_ok (leave_run _)]
      show EStateM.Result.ok _ ((c₁.withDepth (e + 1)).withDepth (e + 1 + 1)) = _
      rw [Cursor.withDepth_withDepth, Cursor.withDepth_eq_self hd₁]
    · simp_all
  · -- an object whose only `type` member is a string
    obtain ⟨hseen, rfl⟩ := tagOf_obj_iff.1 htag
    have hd₁ : c₁.depth = e + 2 :=
      ((Scans.members_of_document (Scans.document _) _ _ _).forward hread).2.trans
        ((Cursor.bump_depth _).trans hD)
    have hmembers := taggedMembers_of_documentMembers _
      (show [] = ([] : List (String × Json)).filter (·.1 ≠ "type") from rfl)
      (show KindSeen none [] from rfl)
      (((Scans.members_of_document (Scans.document _) _ _ _).ok_withDepth).2 ⟨c₁, hread, rfl⟩)
      hseen
    generalize hp' : c.skipBlank.peek = o
    split
    · simp_all
    · rw [bind_run_ok (enter_of_depth (show c.skipBlank.depth = e + 2 from hD)), bump_bind,
        Cursor.bump_withDepth,
        bind_run_ok (budget_run _)]
      refine thenClose_ok ?_ hclose
      rw [Cursor.rest_withDepth, bind_run_ok hmembers]
      show (leave >>= fun _ => pure _) _ = _
      rw [bind_run_ok (leave_run _)]
      show EStateM.Result.ok _ ((c₁.withDepth (e + 1)).withDepth (e + 1 + 1)) = _
      rw [Cursor.withDepth_withDepth, Cursor.withDepth_eq_self hd₁]
    · simp_all
    · simp_all
  · rcases hj with rfl | ⟨_, rfl⟩ | ⟨_, rfl⟩ <;> simp [tagOf] at htag

/-! ## Decoding -/

/-- What a decoded text reads as: a value naming the frame's kind, with fields that fit it. -/
theorem document_of_decode {s : String} {f : InboundFrame} (h : decode s = .ok f) :
    ∃ j k body, Reader.run Reader.documentHere s = .ok j ∧ tagOf j = some (k, body) ∧
      ofKind k body = .ok f := by
  unfold decode at h
  obtain ⟨c₁, h, hend⟩ := run_ok_iff.1 h
  obtain ⟨⟨k, body⟩, c₂, htagged, h⟩ := bind_run_inv h
  obtain ⟨j, hdoc, htag⟩ := document_of_tagged htagged
  dsimp only at h
  cases hof : ofKind k body with
  | ok f' =>
    rw [hof] at h
    obtain ⟨rfl, rfl⟩ : f' = f ∧ c₂ = c₁ := by simpa using h
    exact ⟨j, k, body, run_ok_iff.2 ⟨c₂, hdoc, hend⟩, htag, hof⟩
  | error e =>
    rw [hof] at h
    cases h

/-- A text that reads as a value naming a kind, with fields that fit it, decodes to them. -/
theorem decode_of_document {s : String} {j : Json} {k : Kind} {body : Json} {f : InboundFrame}
    (hrun : Reader.run Reader.documentHere s = .ok j) (htag : tagOf j = some (k, body))
    (hof : ofKind k body = .ok f) : decode s = .ok f := by
  obtain ⟨c₁, hdoc, hend⟩ := run_ok_iff.1 hrun
  unfold decode
  refine run_ok_iff.2 ⟨c₁, ?_, hend⟩
  rw [bind_run_ok (tagged_of_document hdoc htag)]
  dsimp only
  rw [hof]
  rfl

/-- A value naming a kind of no known name decodes to a frame of no known kind, whatever
its other members or items. -/
theorem decode_unknown_kind {s : String} {j : Json} {t : String} {body : Json}
    (hrun : Reader.run Reader.documentHere s = .ok j) (htag : tagOf j = some (.ofName t, body))
    (ht : Kind.ofName t = .other) : decode s = .ok .unknown :=
  decode_of_document hrun htag (by rw [ht]; rfl)

end InboundFrame

end MarketChat
