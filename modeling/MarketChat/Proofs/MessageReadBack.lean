import MarketChat.Proofs.ReadResults
import MarketChat.Proofs.CacheBlob
import MarketChat.Chat.Conversation
/-!
# Messages and conversations read back from their JSON text

A message or a conversation decoded from any text is written back as compact JSON with its
fields in declaration order, and that text decodes to the same record. This module proves it
for every conversation, and for every message whose creation instant falls in the UTC years 0
to 9999.

The proof has two halves.

* **What decoding makes.** `Reader.record_fits` says every value a record reader returns fits
  its field's rule; for a message this means its ids lie within 64 bits and its instant is
  valid (`Message.Readable`), and likewise for a conversation's ids (`Conversation.Readable`).
* **What reads back.** Each field's reader reads back the text its value is written as
  (`Reader.field_flag`, `Reader.field_id`, `Message.field_optInt`, `Reader.field_instant`),
  and an object whose members are the fields in order, with distinct keys, reads back as the
  record (`Reader.record_obj`): each member is found in its field past the fields already read
  (`Reader.member_read`), and with every field found no default is used.

The year range is needed: an instant outside the years 0 to 9999 is written with a signed or
five-digit year, which neither accepted timestamp form reads (`Message.createdAt_past_9999_unread`:
`9999-12-31T23:59:59-01:00` reads as the first second of hour 0 of the year 10000, which is
written `+10000-01-01T00:59:59+00:00`). A lenient id, a number where a string is expected, is
kept as its text and written as a string, which reads back as the same text.

Main statements: `Reader.record_obj`, `Message.read_toJson`, `Conversation.read_toJson`,
`decoded_records_read_back`.
-/

namespace MarketChat

namespace Reader

/-! ## Fields read back -/

theorem field_flag (b : Bool) (D : Nat) :
    ReadsBackAt (field .flag) D (Json.bool b).compact.toList (.flag b) := by
  intro c more _ hd hc
  -- the first letter picks the literal, whose other letters are then read
  obtain ⟨ch, l, htext, hflag⟩ : ∃ ch l, (Json.bool b).compact.toList = ch :: l ∧
      ∀ t, c.rest = ch :: t →
        flag c = placing (bump >>= fun _ => literalRest l >>= fun _ => pure b) c := by
    cases b
    · refine ⟨'f', ['a', 'l', 's', 'e'], by simp [Json.compact], fun t ht => ?_⟩
      unfold flag placing
      rw [skipBlank_bind_of_head _ ht (by decide)]
      rfl
    · refine ⟨'t', ['r', 'u', 'e'], by simp [Json.compact], fun t ht => ?_⟩
      unfold flag placing
      rw [skipBlank_bind_of_head _ ht (by decide)]
      rfl
  have hc' : c.rest = ch :: (l ++ more) := by rw [hc, htext, List.cons_append]
  obtain ⟨c', hlit, hrest, hdepth⟩ := literalRest_ok l (Cursor.bump_rest hc')
  refine ⟨c', map_run_ok ?_, hrest, by simp [hdepth, hd]⟩
  rw [hflag _ hc']
  exact placing_ok (by rw [bump_bind, bind_run_ok hlit]; rfl)

theorem field_id (s : String) (D : Nat) :
    ReadsBackAt (field .id) D (Json.str s).compact.toList (.text s) := by
  intro c more _ hd hc
  have hc' : c.rest = '"' :: (s.toList.flatMap Json.escapeChar ++ '"' :: more) := by
    simp [hc, Json.compact, quote_toList]
  obtain ⟨c', hstr, hrest, hdepth⟩ := string_quote s c.bump more (Cursor.bump_rest hc')
  refine ⟨c', map_run_ok (placing_ok ?_), hrest, by simp [hdepth, hd]⟩
  rw [skipBlank_bind_of_head _ hc' (by decide)]
  show (bump >>= fun _ => string : Reader String) c = _
  rw [bump_bind]
  exact hstr

/-- `null` reads back as nothing. -/
theorem optional_null {α : Type} (r : Reader α) (D : Nat) :
    ReadsBackAt (optional r) D Json.null.compact.toList none := by
  intro c more _ hd hc
  have hc' : c.rest = 'n' :: (['u', 'l', 'l'] ++ more) := by simp [hc, Json.compact]
  obtain ⟨c', hlit, hrest, hdepth⟩ := literalRest_ok ['u', 'l', 'l'] (Cursor.bump_rest hc')
  refine ⟨c', ?_, hrest, by simp [hdepth, hd]⟩
  rw [optional, skipBlank_bind_of_head _ hc' (by decide)]
  show (bump >>= fun _ => literalRest ['u', 'l', 'l'] >>= fun _ => pure none : Reader (Option α)) c = _
  rw [bump_bind, bind_run_ok hlit]
  rfl

/-- A value that does not start as `null` reads back through `optional` as it reads. -/
theorem optional_some {α : Type} {r : Reader α} {D : Nat} {text : List Char} {a : α}
    (hr : ReadsBackAt r D text a) {ch : Char} {t : List Char} (htext : text = ch :: t)
    (hn : ch ≠ 'n') (hb : ch ≠ ' ' ∧ ch ≠ '\t' ∧ ch ≠ '\r' ∧ ch ≠ '\n') :
    ReadsBackAt (optional r) D text (some a) := by
  intro c more hmore hd hc
  obtain ⟨c', hr', hrest, hdepth⟩ := hr c more hmore hd hc
  refine ⟨c', ?_, hrest, hdepth⟩
  have hc' : c.rest = ch :: (t ++ more) := by rw [hc, htext, List.cons_append]
  rw [optional, skipBlank_bind_of_head _ hc' hb]
  erw [optional.match_1.eq_2 _ _ _ _ fun h => hn (Option.some.inj h)]
  exact map_run_ok hr'

/-- An integer's text starts with a sign or a digit. -/
theorem ofInt_head (i : Int) : ∃ ch t, (Json.ofInt i).compact.toList = ch :: t ∧ ch ≠ 'n' ∧
    (ch ≠ ' ' ∧ ch ≠ '\t' ∧ ch ≠ '\r' ∧ ch ≠ '\n') := by
  by_cases hneg : i < 0
  · exact ⟨'-', (Nat.repr i.natAbs).toList,
      by simp [Json.ofInt, Int.not_le.2 hneg, Json.compact, JsonNumber.text], by decide, by decide⟩
  · obtain ⟨ch, t, hct⟩ := repr_cons i.toNat
    have hdigit : ch.isDigit = true := @digits_of_mem_repr i.toNat ch (by simp [hct])
    refine ⟨ch, t, ?_, ?_, NumberChar.not_blank (.inl hdigit)⟩
    · simpa [Json.ofInt, Int.not_lt.1 hneg, Json.compact, JsonNumber.text] using hct
    · rintro rfl
      exact absurd hdigit (by decide)

theorem field_maybeInt64_null (D : Nat) :
    ReadsBackAt (field .maybeInt64) D Json.null.compact.toList .absent :=
  (optional_null (integer .int64) D).map _

theorem field_maybeInt64_int {i : Int} (hlo : -2 ^ 63 ≤ i) (hhi : i ≤ maxMillis) (D : Nat) :
    ReadsBackAt (field .maybeInt64) D (Json.ofInt i).compact.toList (.int i) := by
  obtain ⟨ch, t, htext, hn, hb⟩ := ofInt_head i
  exact (optional_some (integer_int64 hlo hhi D) htext hn hb).map _

/-- A timestamp field reads back from the RFC 3339 text of a valid instant of the years 0 to
9999. -/
theorem field_instant {t : Instant} (ht : t.Valid) (hy0 : 0 ≤ t.year) (hy : t.year ≤ 9999)
    (D : Nat) : ReadsBackAt (field .instant) D (Json.str t.rfc3339).compact.toList (.instant t) := by
  intro c more hmore hd hc
  obtain ⟨c', htext, hrest, hdepth⟩ := text_quote "a string" t.rfc3339 D c more hmore hd hc
  refine ⟨c', ?_, hrest, hdepth⟩
  have hread : readInstant t.rfc3339 = .ok t := by
    unfold readInstant
    rw [Instant.parse?_rfc3339 ht hy0 hy]
  show (text "a string" >>= fun raw => FieldValue.instant <$> ofExcept (readInstant raw)) c = _
  rw [bind_run_ok htext, hread]
  rfl

/-! ## Records read back -/

section Members

/-- Field `f` reads back the value `m.2` from the text of `m.1`. -/
def FieldReadsBack (D : Nat) (f : String × FieldRule × Option FieldValue)
    (m : Json × FieldValue) : Prop :=
  ReadsBackAt (field f.2.1) D m.1.compact.toList m.2

/-- The members of a record's object: each field's key with its written value. -/
def membersOf (fields : List (String × FieldRule × Option FieldValue))
    (ms : List (Json × FieldValue)) : List (String × Json) :=
  List.zipWith (fun f m => (f.1, m.1)) fields ms

/-- Past fields of other keys, the member is taken into the field of its key. -/
theorem memberField_past {k : String} {post : List (String × FieldRule × Option FieldValue)}
    {fpost found : List (Option FieldValue)} {r : Reader (List (Option FieldValue))}
    {c c' : Cursor} (hr : memberField k post fpost = some r) (hrun : r c = .ok found c') :
    ∀ (pre : List (String × FieldRule × Option FieldValue)) (vpre : List FieldValue),
      pre.length = vpre.length → (∀ f ∈ pre, f.1 ≠ k) →
      ∃ r', memberField k (pre ++ post) (vpre.map some ++ fpost) = some r' ∧
        r' c = .ok (vpre.map some ++ found) c'
  | [], [], _, _ => ⟨r, by simpa using hr, by simpa using hrun⟩
  | [], _ :: _, hlen, _ => absurd hlen (by simp)
  | _ :: _, [], hlen, _ => absurd hlen (by simp)
  | (k', rule, d) :: pre, v :: vpre, hlen, hk => by
    obtain ⟨r', hr', hrun'⟩ := memberField_past hr hrun pre vpre (by simpa using hlen)
      fun g hg => hk g (List.mem_cons_of_mem _ hg)
    refine ⟨(some v :: ·) <$> r', ?_, map_run_ok hrun'⟩
    simp only [List.cons_append, List.map_cons, memberField,
      if_neg (hk _ List.mem_cons_self), hr', Option.map_some]

/-- One member read into its field: its key, its colon and its value. -/
theorem member_read {D : Nat} {k : String} {rule : FieldRule} {d : Option FieldValue}
    {m : Json × FieldValue} {post : List (String × FieldRule × Option FieldValue)}
    (pre : List (String × FieldRule × Option FieldValue)) (vpre : List FieldValue)
    (hkeys : ((pre ++ (k, rule, d) :: post).map (·.1)).Nodup)
    (hlen : pre.length = vpre.length) (hm : FieldReadsBack D (k, rule, d) m) {c : Cursor}
    {more : List Char} (hmore : Delimited more) (hd : c.depth = D)
    (hc : c.rest = Json.memberText (k, m.1) ++ more) :
    ∃ r c₁ c₂, key c = .ok k c₁ ∧
      memberField k (pre ++ (k, rule, d) :: post) (vpre.map some ++ none :: post.map fun _ => none)
        = some r ∧
      r c₁ = .ok (vpre.map some ++ some m.2 :: post.map fun _ => none) c₂ ∧ c₂.rest = more ∧
      c₂.depth = D := by
  obtain ⟨c₁, hkey, hrest₁, hdepth₁⟩ := key_quote hc
  obtain ⟨c₂, hbody, hrest₂, hdepth₂⟩ :=
    memberBody_ok (post.map fun _ => none) hm hmore (by rw [hdepth₁, hd]) hrest₁
  -- the keys before are other keys
  have hpre : ∀ f ∈ pre, f.1 ≠ k := by
    intro f hf hfk
    rw [List.map_append, List.nodup_append] at hkeys
    exact hkeys.2.2 _ (List.mem_map_of_mem hf) _ List.mem_cons_self hfk
  have hhere : memberField k ((k, rule, d) :: post) (none :: post.map fun _ => none) =
      some (colon >>= fun _ => field rule >>= fun v => pure (some v :: post.map fun _ => none)) := by
    simp [memberField]
  obtain ⟨r, hr, hrun⟩ := memberField_past hhere hbody pre vpre hlen hpre
  exact ⟨r, c₁, c₂, hkey, hr, hrun, hrest₂, hdepth₂⟩

variable {D : Nat} {fields : List (String × FieldRule × Option FieldValue)}

/-- The members after the first read back, each after its comma, into the fields after those
already read. -/
theorem recordMembers_tail (hkeys : (fields.map (·.1)).Nodup)
    {post : List (String × FieldRule × Option FieldValue)} {ms : List (Json × FieldValue)}
    (hms : List.Forall₂ (FieldReadsBack D) post ms) :
    ∀ (pre : List (String × FieldRule × Option FieldValue)) (vpre : List FieldValue)
      (fuel : Nat) (c : Cursor) (more : List Char), fields = pre ++ post →
      pre.length = vpre.length → ms.length < fuel → c.depth = D →
      c.rest = Json.membersTail (membersOf post ms) ++ '}' :: more →
      ∃ c', recordMembers fields fuel false (vpre.map some ++ post.map fun _ => none) c =
          .ok (vpre.map some ++ ms.map fun m => some m.2) c' ∧
        c'.rest = '}' :: more ∧ c'.depth = D := by
  induction hms with
  | nil =>
    intro pre vpre fuel c more _ _ hfuel hd hc
    obtain ⟨fuel, rfl⟩ : ∃ f, fuel = f + 1 := ⟨fuel - 1, by simp at hfuel; omega⟩
    have hc' : c.rest = '}' :: more := by simpa [membersOf, Json.membersTail] using hc
    refine ⟨c, ?_, hc', hd⟩
    rw [recordMembers, bind_run_ok (nextMember_close false hc')]
    simp
  | @cons f m post ms hm hrest ih =>
    intro pre vpre fuel c more hfields hlen hfuel hd hc
    obtain ⟨k, rule, d⟩ := f
    obtain ⟨fuel, rfl⟩ : ∃ f, fuel = f + 1 := ⟨fuel - 1, by simp at hfuel; omega⟩
    obtain ⟨t, ht⟩ := Json.memberText_quote (k, m.1)
    have hc' : c.rest = ',' :: (Json.memberText (k, m.1) ++
        (Json.membersTail (membersOf post ms) ++ '}' :: more)) := by
      simp [hc, membersOf, Json.membersTail]
    obtain ⟨r, c₁, c₂, hkey, hr, hrun, hrest₂, hdepth₂⟩ := member_read pre vpre (hfields ▸ hkeys) hlen hm
      (Json.delimited_membersTail _ more) (by simp [hd]) (Cursor.bump_rest hc')
    rw [← hfields] at hr
    -- the field just read joins those already read
    have hfound : vpre.map some ++ some m.2 :: post.map (fun _ => none) =
        (vpre ++ [m.2]).map some ++ post.map (fun _ => none) := by simp
    obtain ⟨c', hread, hrest', hdepth'⟩ := ih (pre ++ [(k, rule, d)]) (vpre ++ [m.2]) fuel c₂ more
      (by simp [hfields]) (by simp [hlen]) (by simp at hfuel; omega) hdepth₂ hrest₂
    refine ⟨c', ?_, hrest', hdepth'⟩
    rw [List.map_cons, recordMembers_step (nextMember_comma (by rw [hc', ht, List.cons_append]))
      hkey hr hrun, hfound, hread]
    simp

/-- **The members of a record's object read back into its fields**, written in the fields'
order with distinct keys. -/
theorem recordMembers_compact (hkeys : (fields.map (·.1)).Nodup) {ms : List (Json × FieldValue)}
    (hms : List.Forall₂ (FieldReadsBack D) fields ms) {fuel : Nat} (hfuel : ms.length < fuel)
    {c : Cursor} {more : List Char} (hd : c.depth = D)
    (hc : c.rest = (Json.compactMembers (membersOf fields ms)).toList ++ '}' :: more) :
    ∃ c', recordMembers fields fuel true (fields.map fun _ => none) c =
        .ok (ms.map fun m => some m.2) c' ∧ c'.rest = '}' :: more ∧ c'.depth = D := by
  obtain ⟨fuel, rfl⟩ : ∃ f, fuel = f + 1 := ⟨fuel - 1, by omega⟩
  cases hms with
  | nil =>
    have hc' : c.rest = '}' :: more := by simpa [membersOf, Json.compactMembers] using hc
    refine ⟨c, ?_, hc', hd⟩
    rw [recordMembers, bind_run_ok (nextMember_close true hc')]
    rfl
  | @cons f m post ms hm hrest =>
    obtain ⟨k, rule, d⟩ := f
    obtain ⟨t, ht⟩ := Json.memberText_quote (k, m.1)
    have hc' : c.rest = Json.memberText (k, m.1) ++
        (Json.membersTail (membersOf post ms) ++ '}' :: more) := by
      rw [hc, membersOf, List.zipWith_cons_cons, Json.compactMembers_cons, List.append_assoc]
      rfl
    obtain ⟨r, c₁, c₂, hkey, hr, hrun, hrest₂, hdepth₂⟩ := member_read [] []
      hkeys rfl hm (Json.delimited_membersTail _ more) hd hc'
    simp only [List.nil_append, List.map_nil] at hr hrun
    obtain ⟨c', hread, hrest', hdepth'⟩ := recordMembers_tail hkeys hrest [(k, rule, d)] [m.2]
      fuel c₂ more rfl rfl (by simp at hfuel; omega) hdepth₂ hrest₂
    refine ⟨c', ?_, hrest', hdepth'⟩
    rw [List.map_cons, recordMembers_step (nextMember_first (by rw [hc', ht, List.cons_append]))
      hkey hr hrun]
    simpa using hread

theorem fillDefaults_found : ∀ {fields : List (String × FieldRule × Option FieldValue)}
    {vs : List FieldValue}, fields.length = vs.length → fillDefaults fields (vs.map some) = .ok vs
  | [], [], _ => rfl
  | [], _ :: _, h => absurd h (by simp)
  | _ :: _, [], h => absurd h (by simp)
  | (k, rule, d) :: fields, v :: vs, h => by
    simp only [List.map_cons, fillDefaults, List.head?, Option.getD, List.drop_succ_cons,
      List.drop_zero, fillDefaults_found (by simpa using h : fields.length = vs.length)]
    rfl

end Members

/-- **A record reads back from its object's text**, members written in the fields' order
with distinct keys: the object takes one level of the allowance, and the members are read
inside it. -/
theorem record_obj {shape : RecordShape} (hkeys : (shape.fields.map (·.1)).Nodup) {D : Nat}
    (hD : 1 < D) {ms : List (Json × FieldValue)}
    (hms : List.Forall₂ (FieldReadsBack (D - 1)) shape.fields ms) :
    ReadsBackAt (record shape) D (Json.obj (membersOf shape.fields ms)).compact.toList
      (ms.map (·.2)) := by
  intro c more _ hd hc
  have hc' : c.rest = '{' ::
      ((Json.compactMembers (membersOf shape.fields ms)).toList ++ '}' :: more) := by
    simp [hc, Json.compact]
  let c₁ : Cursor := { c with depth := c.depth - 1 }
  have hfuel : ms.length < c₁.bump.rest.length + 1 := by
    have hlen := Json.length_le_compactMembers (membersOf shape.fields ms)
    have hms_len : (membersOf shape.fields ms).length = ms.length := by
      simp [membersOf, hms.length_eq]
    rw [Cursor.bump_rest (c := c₁) hc']
    simp only [List.length_append, List.length_cons]
    omega
  obtain ⟨c₂, hmembers, hrest₂, hdepth₂⟩ :=
    recordMembers_compact hkeys hms hfuel (by simp [c₁, hd]) (Cursor.bump_rest (c := c₁) hc')
  refine ⟨_, ?_, Cursor.bump_rest (c := { c₂ with depth := c₂.depth + 1 }) hrest₂,
    by simp [hdepth₂]; omega⟩
  rw [record]
  refine placing_ok ?_
  rw [skipBlank_bind_of_head _ hc' (by decide)]
  show (enter >>= fun _ => bump >>= fun _ => budget >>= fun n =>
    thenClose (recordMembers shape.fields n true (shape.fields.map fun _ => none) >>= fun found =>
      leave >>= fun _ => ofExcept (fillDefaults shape.fields found)) closeObject :
        Reader (List FieldValue)) c = _
  rw [bind_run_ok (enter_ok (by omega)), bump_bind, bind_run_ok (budget_run _)]
  refine thenClose_ok ?_ (closeObject_ok hrest₂)
  have hfound : ms.map (fun m => some m.2) = (ms.map (·.2)).map some := by simp
  rw [bind_run_ok hmembers, bind_run_ok (leave_run _), hfound,
    fillDefaults_found (by simp [hms.length_eq])]
  rfl

end Reader

namespace FieldValue

theorem Fits.int?_of_maybeInt64 {v : FieldValue} (h : v.Fits .maybeInt64) :
    ∀ i, v.int? = some i → -2 ^ 63 ≤ i ∧ i ≤ 2 ^ 63 - 1 := by
  rcases h with rfl | ⟨j, rfl, hj⟩
  · intro i h
    cases h
  · intro i h
    cases h
    exact hj

theorem Fits.intD_of_int64 {v : FieldValue} (h : v.Fits .int64) :
    -2 ^ 63 ≤ v.intD ∧ v.intD ≤ 2 ^ 63 - 1 := by
  obtain ⟨i, rfl, hi⟩ := h
  exact hi

theorem Fits.instantD_valid {v : FieldValue} (h : v.Fits .instant) : v.instantD.Valid := by
  obtain ⟨t, rfl, ht⟩ := h
  exact ht

end FieldValue

namespace Message

/-- **A message as `Message.read` makes it**: its ids within 64 bits and its creation instant
valid. -/
structure Readable (m : Message) : Prop where
  id_fits : ∀ i, m.id = some i → -2 ^ 63 ≤ i ∧ i ≤ 2 ^ 63 - 1
  chatId_fits : ∀ i, m.chatId = some i → -2 ^ 63 ≤ i ∧ i ≤ 2 ^ 63 - 1
  createdAt_valid : m.createdAt.Valid

theorem shape_defaultsFit : Reader.DefaultsFit shape.fields := by
  intro f hf d hd
  simp only [shape, List.mem_cons, List.not_mem_nil, or_false] at hf
  rcases hf with rfl | rfl | rfl | rfl | rfl | rfl | rfl <;> cases hd <;> simp [FieldValue.Fits]

/-- Every message read is readable. -/
theorem read_readable : Reader.Yields read Readable := by
  refine Reader.Yields.map (Reader.record_fits shape_defaultsFit) fun vs hvs => ?_
  -- one value per field, in the fields' order
  rcases hvs with _ | ⟨h₀, _ | ⟨h₁, _ | ⟨-, _ | ⟨-, _ | ⟨-, _ | ⟨-, _ | ⟨h₆, _ | _⟩⟩⟩⟩⟩⟩⟩
  exact ⟨h₀.int?_of_maybeInt64, h₁.int?_of_maybeInt64, h₆.instantD_valid⟩

/-- An optional id within 64 bits reads back from its text, `null` for none. -/
theorem field_optInt {o : Option Int} (hfit : ∀ i, o = some i → -2 ^ 63 ≤ i ∧ i ≤ 2 ^ 63 - 1)
    (D : Nat) :
    Reader.ReadsBackAt (Reader.field .maybeInt64) D (optInt o).compact.toList
      ((o.map FieldValue.int).getD .absent) := by
  cases o with
  | none => exact Reader.field_maybeInt64_null D
  | some i =>
    obtain ⟨hlo, hhi⟩ := hfit i rfl
    exact Reader.field_maybeInt64_int hlo hhi D

/-- The values of a message's fields, as written and as read. -/
def written (m : Message) : List (Json × FieldValue) :=
  [(optInt m.id, (m.id.map .int).getD .absent), (optInt m.chatId, (m.chatId.map .int).getD .absent),
    (.str m.senderId, .text m.senderId), (.bool m.senderIsRegistered, .flag m.senderIsRegistered),
    (.str m.text, .text m.text), (.bool m.isRead, .flag m.isRead),
    (.str m.createdAt.rfc3339, .instant m.createdAt)]

theorem toJson_eq (m : Message) : m.toJson = .obj (Reader.membersOf shape.fields m.written) := rfl

theorem ofFields_written (m : Message) : ofFields (m.written.map (·.2)) = m := by
  obtain ⟨id, chatId, senderId, senderIsRegistered, text, isRead, createdAt⟩ := m
  cases id <;> cases chatId <;> rfl

/-- **A readable message of the years 0 to 9999 reads back from its JSON text.** -/
theorem read_toJson {m : Message} (hm : m.Readable) (hy0 : 0 ≤ m.createdAt.year)
    (hy : m.createdAt.year ≤ 9999) : Reader.run read m.toJson.compact = .ok m := by
  have hkeys : (shape.fields.map (·.1)).Nodup := by decide
  -- each field reads back its value, inside the message's object
  have hms : List.Forall₂ (Reader.FieldReadsBack 127) shape.fields m.written :=
    .cons (field_optInt hm.id_fits 127) <| .cons (field_optInt hm.chatId_fits 127) <|
      .cons (Reader.field_id _ 127) <| .cons (Reader.field_flag _ 127) <|
      .cons (Reader.field_text _ 127) <| .cons (Reader.field_flag _ 127) <|
      .cons (Reader.field_instant hm.createdAt_valid hy0 hy 127) .nil
  obtain ⟨c', hr, hrest, -⟩ := Reader.record_obj hkeys (show 1 < 128 by decide) hms
    (Cursor.start m.toJson.compact) [] (by simp [Delimited]) rfl
    (by simp [Cursor.start, toJson_eq])
  have hrun : Reader.run read m.toJson.compact = .ok (ofFields (m.written.map (·.2))) :=
    Reader.run_of_ok (Reader.map_run_ok hr) hrest
  rw [hrun, ofFields_written]

end Message

namespace Conversation

/-- **A conversation as `Conversation.read` makes it**: its ids within 64 bits. -/
structure Readable (cv : Conversation) : Prop where
  id_fits : ∀ i, cv.id = some i → -2 ^ 63 ≤ i ∧ i ≤ 2 ^ 63 - 1
  listingId_fits : -2 ^ 63 ≤ cv.listingId ∧ cv.listingId ≤ 2 ^ 63 - 1
  sellerId_fits : -2 ^ 63 ≤ cv.sellerId ∧ cv.sellerId ≤ 2 ^ 63 - 1

theorem shape_defaultsFit : Reader.DefaultsFit shape.fields := by
  intro f hf d hd
  simp only [shape, List.mem_cons, List.not_mem_nil, or_false] at hf
  rcases hf with rfl | rfl | rfl | rfl | rfl <;> cases hd <;> simp [FieldValue.Fits]

/-- Every conversation read is readable. -/
theorem read_readable : Reader.Yields read Readable := by
  refine Reader.Yields.map (Reader.record_fits shape_defaultsFit) fun vs hvs => ?_
  rcases hvs with _ | ⟨h₀, _ | ⟨h₁, _ | ⟨h₂, _ | ⟨-, _ | ⟨-, _ | _⟩⟩⟩⟩⟩
  exact ⟨h₀.int?_of_maybeInt64, h₁.intD_of_int64, h₂.intD_of_int64⟩

/-- The values of a conversation's fields, as written and as read. -/
def written (cv : Conversation) : List (Json × FieldValue) :=
  [(Message.optInt cv.id, (cv.id.map .int).getD .absent), (Json.ofInt cv.listingId, .int cv.listingId),
    (Json.ofInt cv.sellerId, .int cv.sellerId), (.str cv.buyerId, .text cv.buyerId),
    (.bool cv.buyerIsRegistered, .flag cv.buyerIsRegistered)]

theorem toJson_eq (cv : Conversation) :
    cv.toJson = .obj (Reader.membersOf shape.fields cv.written) := rfl

theorem ofFields_written (cv : Conversation) : ofFields (cv.written.map (·.2)) = cv := by
  obtain ⟨id, listingId, sellerId, buyerId, buyerIsRegistered⟩ := cv
  cases id <;> rfl

/-- **A readable conversation reads back from its JSON text.** -/
theorem read_toJson {cv : Conversation} (hcv : cv.Readable) :
    Reader.run read cv.toJson.compact = .ok cv := by
  have hkeys : (shape.fields.map (·.1)).Nodup := by decide
  have hms : List.Forall₂ (Reader.FieldReadsBack 127) shape.fields cv.written :=
    .cons (Message.field_optInt hcv.id_fits 127) <|
      .cons (Reader.field_int64 hcv.listingId_fits.1 hcv.listingId_fits.2 127) <|
      .cons (Reader.field_int64 hcv.sellerId_fits.1 hcv.sellerId_fits.2 127) <|
      .cons (Reader.field_id _ 127) <| .cons (Reader.field_flag _ 127) .nil
  obtain ⟨c', hr, hrest, -⟩ := Reader.record_obj hkeys (show 1 < 128 by decide) hms
    (Cursor.start cv.toJson.compact) [] (by simp [Delimited]) rfl
    (by simp [Cursor.start, toJson_eq])
  have hrun : Reader.run read cv.toJson.compact = .ok (ofFields (cv.written.map (·.2))) :=
    Reader.run_of_ok (Reader.map_run_ok hr) hrest
  rw [hrun, ofFields_written]

end Conversation

/-- **Decoded messages and conversations read back from their JSON text**: a message whose
creation instant falls in the UTC years 0 to 9999, and every conversation. -/
theorem decoded_records_read_back :
    (∀ (s : String) (m : Message), Reader.run Message.read s = .ok m →
      0 ≤ m.createdAt.year → m.createdAt.year ≤ 9999 →
      Reader.run Message.read m.toJson.compact = .ok m) ∧
    (∀ (s : String) (cv : Conversation), Reader.run Conversation.read s = .ok cv →
      Reader.run Conversation.read cv.toJson.compact = .ok cv) := by
  constructor
  · intro s m h hy0 hy
    obtain ⟨c₁, hr, -⟩ := Reader.run_ok_inv h
    exact Message.read_toJson (Message.read_readable hr) hy0 hy
  · intro s cv h
    obtain ⟨c₁, hr, -⟩ := Reader.run_ok_inv h
    exact Conversation.read_toJson (Conversation.read_readable hr)


set_option maxRecDepth 10000 in
/-- A message and a conversation decoded from sample texts, with a numeric sender id and a
timestamp with an offset, read back. -/
theorem decoded_records_read_back_samples :
    (∃ m : Message, Reader.run Message.read
      "\x7b\"id\":7,\"sender_id\":42,\"message_text\":\"hi\",\"created_at\":\"2024-05-01 10:00:00+02:00\"\x7d"
        = .ok m ∧ Reader.run Message.read m.toJson.compact = .ok m) ∧
    (∃ cv : Conversation, Reader.run Conversation.read
      "[null,3,-4,\"b7\"]" = .ok cv ∧ Reader.run Conversation.read cv.toJson.compact = .ok cv) := by
  have hm : Reader.run Message.read
      "\x7b\"id\":7,\"sender_id\":42,\"message_text\":\"hi\",\"created_at\":\"2024-05-01 10:00:00+02:00\"\x7d"
        = .ok { id := some 7, senderId := "42", text := "hi", createdAt := ⟨19844, 28800, 0⟩ } := by
    cbv
  have hcv : Reader.run Conversation.read "[null,3,-4,\"b7\"]" =
      .ok { listingId := 3, sellerId := -4, buyerId := "b7" } := by
    cbv
  have hyear : Instant.year ⟨19844, 28800, 0⟩ = 2024 := by decide
  exact ⟨⟨_, hm, decoded_records_read_back.1 _ _ hm (by rw [hyear]; decide)
    (by rw [hyear]; decide)⟩, ⟨_, hcv, decoded_records_read_back.2 _ _ hcv⟩⟩

set_option maxRecDepth 10000 in
/-- A timestamp an hour behind UTC on the last second of the year 9999 decodes, and the
message's JSON text, with the year written `+10000`, does not. -/
theorem Message.createdAt_past_9999_unread :
    ∃ m : Message, Reader.run Message.read
      "\x7b\"sender_id\":\"a\",\"message_text\":\"b\",\"created_at\":\"9999-12-31T23:59:59-01:00\"\x7d"
        = .ok m ∧ (Reader.run Message.read m.toJson.compact).isOk = false :=
  ⟨{ senderId := "a", text := "b", createdAt := ⟨2932897, 3599, 0⟩ }, by cbv, by cbv⟩

end MarketChat
