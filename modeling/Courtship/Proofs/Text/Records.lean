import Courtship.Http.Body
import Courtship.Proofs.Text.Json
import Courtship.Proofs.Text.Rfc3339

/-! What is written of a value is read back as that value, and so it is written of no other one. -/

namespace Courtship

/-- A form that reads back what it writes, in text that keeps it, and never as the absent value. -/
class LawfulJsonForm (α : Type) [JsonForm α] : Prop where
  ofJson?_toJson : ∀ a : α, ofJson? (toJson a) = some a
  isIntegral_toJson : ∀ a : α, (toJson a).isIntegral = true
  toJson_ne_null : ∀ a : α, toJson a ≠ .null

export LawfulJsonForm (ofJson?_toJson isIntegral_toJson toJson_ne_null)

attribute [simp] LawfulJsonForm.ofJson?_toJson LawfulJsonForm.isIntegral_toJson
  LawfulJsonForm.toJson_ne_null

section

variable {α : Type} [JsonForm α] [LawfulJsonForm α]

@[simp]
theorem Json.Slot.required_toJson (a : α) : (Slot.given (toJson a)).required = some a :=
  ofJson?_toJson a

@[simp]
theorem Json.Slot.optional_optionJson (a : Option α) :
    (Slot.given (optionJson a)).optional = some a := by
  cases a with
  | none => rfl
  | some a =>
    unfold optional
    split
    · rename_i hnull
      exact absurd (Json.Slot.given.inj hnull) (toJson_ne_null a)
    · rename_i heq
      rw [← Json.Slot.given.inj heq, optionJson, ofJson?_toJson, Option.map_some]
    all_goals simp_all

@[simp]
theorem isIntegral_optionJson (a : Option α) : (optionJson a).isIntegral = true := by
  cases a <;> simp [optionJson, Json.isIntegral]

theorem ofText?_text (a : α) : (Json.ofText? (toJson a).text).bind ofJson? = some a := by
  rw [Json.ofText?_text (isIntegral_toJson a), Option.bind_some, ofJson?_toJson]

theorem toJson_injective : Function.Injective (toJson : α → Json) := fun a b h => by
  rw [← Option.some_inj, ← ofJson?_toJson a, h, ofJson?_toJson]

theorem optionJson_injective : Function.Injective (optionJson : Option α → Json) := fun a b h => by
  rw [← Option.some_inj, ← Json.Slot.optional_optionJson a, h, Json.Slot.optional_optionJson]

end

/-- Two values that are written alike are the same one. -/
theorem Json.text_inj {j k : Json} (hj : j.isIntegral) (hk : k.isIntegral)
    (h : j.text = k.text) : j = k := by
  rw [← Option.some_inj, ← ofText?_text hj, h, ofText?_text hk]

theorem Json.string_ne_null (s : String) : Json.string s ≠ .null := nofun

theorem Json.object_ne_null (members : List (String × Json)) : Json.object members ≠ .null := nofun

/-! ## Plain values -/

instance : LawfulJsonForm Bool where
  ofJson?_toJson _ := rfl
  isIntegral_toJson _ := rfl
  toJson_ne_null := nofun

instance : LawfulJsonForm String where
  ofJson?_toJson _ := rfl
  isIntegral_toJson _ := rfl
  toJson_ne_null := nofun

theorem Json.toWord?_ofNat {bits n : Nat} (h : n < 2 ^ bits) :
    (Json.ofNat n).toWord? bits = some n := by
  have hword : (n : Int) < ((1 <<< bits : Nat) : Int) := by
    rw [Nat.one_shiftLeft]
    exact_mod_cast h
  simp only [Json.ofNat, toWord?, Int.toNat_natCast]
  exact if_pos ⟨by omega, hword⟩

instance : LawfulJsonForm UInt16 where
  ofJson?_toJson n := by
    simp [toJson, ofJson?, Json.toWord?_ofNat n.toNat_lt]
  isIntegral_toJson _ := rfl
  toJson_ne_null := nofun

instance : LawfulJsonForm UInt64 where
  ofJson?_toJson n := by
    simp [toJson, ofJson?, Json.toWord?_ofNat n.toNat_lt]
  isIntegral_toJson _ := rfl
  toJson_ne_null := nofun

theorem Json.areIntegral_iff (js : List Json) :
    areIntegral js = true ↔ ∀ j ∈ js, j.isIntegral = true := by
  induction js with
  | nil => simp [areIntegral]
  | cons j js ih => simp [areIntegral, ih]

instance {α : Type} [JsonForm α] [LawfulJsonForm α] : LawfulJsonForm (List α) where
  ofJson?_toJson as := by
    simp only [toJson, ofJson?, List.mapM_map]
    induction as with
    | nil => rfl
    | cons a as ih => simp_all
  isIntegral_toJson as := by simp [toJson, Json.isIntegral, Json.areIntegral_iff]
  toJson_ne_null := nofun

/-! ## Identifiers and times -/

instance : LawfulJsonForm Uuid where
  ofJson?_toJson := Uuid.ofText?_text
  isIntegral_toJson _ := rfl
  toJson_ne_null := nofun

instance : LawfulJsonForm UserId where
  ofJson?_toJson u := congrArg (Option.map UserId.mk) (Uuid.ofText?_text u.uuid)
  isIntegral_toJson _ := rfl
  toJson_ne_null := nofun

instance : LawfulJsonForm PairId where
  ofJson?_toJson _ := rfl
  isIntegral_toJson _ := rfl
  toJson_ne_null := nofun

instance : LawfulJsonForm Instant where
  ofJson?_toJson := Instant.ofText?_text
  isIntegral_toJson _ := rfl
  toJson_ne_null _ := Json.string_ne_null _

/-! ## Enumerations -/

instance : LawfulJsonForm Direction where
  ofJson?_toJson d := by cases d <;> decide
  isIntegral_toJson _ := rfl
  toJson_ne_null := nofun

instance : LawfulJsonForm MatchState where
  ofJson?_toJson s := by cases s <;> decide
  isIntegral_toJson _ := rfl
  toJson_ne_null := nofun

instance : LawfulJsonForm ArchiveReason where
  ofJson?_toJson r := by cases r <;> decide
  isIntegral_toJson _ := rfl
  toJson_ne_null := nofun

instance : LawfulJsonForm FriendRequestStatus where
  ofJson?_toJson s := by cases s <;> decide
  isIntegral_toJson _ := rfl
  toJson_ne_null := nofun

instance : LawfulJsonForm NotificationType where
  ofJson?_toJson t := by cases t <;> decide
  isIntegral_toJson _ := rfl
  toJson_ne_null := nofun

/-! ## Records -/

namespace Json

/-- The one member that bears a name of the field is found. -/
theorem memberSlot_eq {names : List String} {members : List (String × Json)} {m : String × Json}
    (hm : m ∈ members) (hname : (members.map Prod.fst).filter names.contains = [m.1]) :
    memberSlot names members = some (.given m.2) := by
  have hnamed : ((members.filter fun m => names.contains m.1).map Prod.fst) = [m.1] := by
    rw [← hname, List.filter_map]
    rfl
  obtain ⟨found, hfound, hfst⟩ := List.map_eq_singleton_iff.1 hnamed
  have hmem : m ∈ members.filter fun m => names.contains m.1 := by
    have hcontains : m.1 ∈ (members.map Prod.fst).filter names.contains := by simp [hname]
    exact List.mem_filter.2 ⟨hm, (List.mem_filter.1 hcontains).2⟩
  rw [hfound, List.mem_singleton] at hmem
  simp only [memberSlot, hfound, hmem]

theorem mapM_memberSlot {fields : List (List String)} {members found : List (String × Json)}
    (hfound : ∀ m ∈ found, m ∈ members)
    (hnames : fields.map (fun names => (members.map Prod.fst).filter names.contains) =
      found.map fun m => [m.1]) :
    (fields.mapM fun names => memberSlot names members) =
      some (found.map fun m => .given m.2) := by
  induction fields generalizing found with
  | nil =>
    cases found with
    | nil => rfl
    | cons m found => simp at hnames
  | cons names fields ih =>
    cases found with
    | nil => simp at hnames
    | cons m found =>
      obtain ⟨hname, hnames⟩ := List.cons.inj hnames
      obtain ⟨hm, hfound⟩ := List.forall_mem_cons.1 hfound
      rw [List.mapM_cons, memberSlot_eq hm hname, ih hfound hnames]
      rfl

/-- A record is read from an object with one member for each of its fields, in their order. -/
theorem slots?_bind {α : Type} {fields : List (List String)} {members : List (String × Json)}
    {read : List Slot → Option α} {a : α}
    (hnames : fields.map (fun names => (members.map Prod.fst).filter names.contains) =
      members.map fun m => [m.1])
    (hread : read (members.map fun m => .given m.2) = some a) :
    ((slots? fields (.object members)).bind read) = some a := by
  rw [slots?, mapM_memberSlot (fun _ => id) hnames, Option.bind_some, hread]

theorem isIntegral_object {members : List (String × Json)}
    (h : ∀ m ∈ members, m.2.isIntegral = true) : (Json.object members).isIntegral = true := by
  rw [isIntegral]
  induction members with
  | nil => rfl
  | cons m members ih => simp_all [membersIntegral]

end Json

instance : LawfulJsonForm Like where
  ofJson?_toJson _ := Json.slots?_bind rfl (by simp)
  isIntegral_toJson _ := Json.isIntegral_object (by simp)
  toJson_ne_null _ := Json.object_ne_null _

instance : LawfulJsonForm Match where
  ofJson?_toJson _ := Json.slots?_bind rfl (by simp)
  isIntegral_toJson _ := Json.isIntegral_object (by simp)
  toJson_ne_null _ := Json.object_ne_null _

instance : LawfulJsonForm FriendRequest where
  ofJson?_toJson _ := Json.slots?_bind rfl (by simp)
  isIntegral_toJson _ := Json.isIntegral_object (by simp)
  toJson_ne_null _ := Json.object_ne_null _

instance : LawfulJsonForm Conversation where
  ofJson?_toJson _ := Json.slots?_bind rfl (by simp)
  isIntegral_toJson _ := Json.isIntegral_object (by simp)
  toJson_ne_null _ := Json.object_ne_null _

instance : LawfulJsonForm Block where
  ofJson?_toJson _ := Json.slots?_bind rfl (by simp)
  isIntegral_toJson _ := Json.isIntegral_object (by simp)
  toJson_ne_null _ := Json.object_ne_null _

/-! ## Notifications -/

namespace NotificationPayload

theorem splitKind?_object (type : NotificationType) {members : List (String × Json)}
    (h : ∀ m ∈ members, m.1 ≠ "kind") :
    splitKind? (.object (("kind", .string type.kind) :: members)) =
      some (type, .object members) := by
  have hkind : NotificationType.all.find? (fun t => t.kind = type.kind) = some type := by
    cases type <;> decide
  have hmarks : members.filter (fun m => decide (m.1 = "kind")) = [] := by simpa using h
  have hothers : members.filter (fun m => !decide (m.1 = "kind")) = members := by simpa using h
  simp [splitKind?, kindOf?, hkind, List.partition_eq_filter_filter, Function.comp_def, hmarks,
    hothers]

theorem ne_kind_of_mem_zip (p : NotificationPayload) :
    ∀ m ∈ (fieldNames p.type).zip p.fieldValues, m.1 ≠ "kind" := by
  cases p <;> simp [fieldNames, fieldValues, type]

theorem ofSlots?_fieldValues (p : NotificationPayload) :
    ((Json.object ((fieldNames p.type).zip p.fieldValues)).slots?
        ((fieldNames p.type).map ([·]))).bind (ofSlots? p.type) = some p := by
  cases p <;> exact Json.slots?_bind rfl (by simp [type, fieldNames, fieldValues, ofSlots?])

end NotificationPayload

instance : LawfulJsonForm NotificationPayload where
  ofJson?_toJson p := by
    have hsplit := NotificationPayload.splitKind?_object p.type p.ne_kind_of_mem_zip
    exact (congrArg (Option.bind · _) hsplit).trans p.ofSlots?_fieldValues
  isIntegral_toJson p := Json.isIntegral_object (by
    cases p <;> simp [NotificationPayload.fieldNames, NotificationPayload.fieldValues,
      NotificationPayload.type, Json.isIntegral])
  toJson_ne_null _ := Json.object_ne_null _

instance : LawfulJsonForm Notification where
  ofJson?_toJson _ := Json.slots?_bind rfl (by simp)
  isIntegral_toJson _ := Json.isIntegral_object (by simp)
  toJson_ne_null _ := Json.object_ne_null _

/-! ## Bodies -/

namespace Http

instance : LawfulJsonForm SwipeBody where
  ofJson?_toJson _ := Json.slots?_bind rfl (by simp)
  isIntegral_toJson _ := Json.isIntegral_object (by simp)
  toJson_ne_null _ := Json.object_ne_null _

instance : LawfulJsonForm UndoBody where
  ofJson?_toJson _ := Json.slots?_bind rfl (by simp)
  isIntegral_toJson _ := Json.isIntegral_object (by simp)
  toJson_ne_null _ := Json.object_ne_null _

instance : LawfulJsonForm ProposalBody where
  ofJson?_toJson _ := Json.slots?_bind rfl (by simp)
  isIntegral_toJson _ := Json.isIntegral_object (by simp)
  toJson_ne_null _ := Json.object_ne_null _

instance : LawfulJsonForm AnswerBody where
  ofJson?_toJson _ := Json.slots?_bind rfl (by simp)
  isIntegral_toJson _ := Json.isIntegral_object (by simp)
  toJson_ne_null _ := Json.object_ne_null _

instance : LawfulJsonForm ActionBody where
  ofJson?_toJson _ := Json.slots?_bind rfl (by simp)
  isIntegral_toJson _ := Json.isIntegral_object (by simp)
  toJson_ne_null _ := Json.object_ne_null _

instance : LawfulJsonForm MatchesBody where
  ofJson?_toJson _ := Json.slots?_bind rfl (by simp)
  isIntegral_toJson _ := Json.isIntegral_object (by simp)
  toJson_ne_null _ := Json.object_ne_null _

instance : LawfulJsonForm RequestsBody where
  ofJson?_toJson _ := Json.slots?_bind rfl (by simp)
  isIntegral_toJson _ := Json.isIntegral_object (by simp)
  toJson_ne_null _ := Json.object_ne_null _

instance : LawfulJsonForm NotificationsBody where
  ofJson?_toJson _ := Json.slots?_bind rfl (by simp)
  isIntegral_toJson _ := Json.isIntegral_object (by simp)
  toJson_ne_null _ := Json.object_ne_null _

instance : LawfulJsonForm BlocksBody where
  ofJson?_toJson _ := Json.slots?_bind rfl (by simp)
  isIntegral_toJson _ := Json.isIntegral_object (by simp)
  toJson_ne_null _ := Json.object_ne_null _

instance : LawfulJsonForm RelationshipBody where
  ofJson?_toJson _ := Json.slots?_bind rfl (by simp)
  isIntegral_toJson _ := Json.isIntegral_object (by simp)
  toJson_ne_null _ := Json.object_ne_null _

instance : LawfulJsonForm UnblockBody where
  ofJson?_toJson _ := Json.slots?_bind rfl (by simp)
  isIntegral_toJson _ := Json.isIntegral_object (by simp)
  toJson_ne_null _ := Json.object_ne_null _

instance : LawfulJsonForm ErrorBody where
  ofJson?_toJson _ := Json.slots?_bind rfl (by simp)
  isIntegral_toJson _ := Json.isIntegral_object (by simp)
  toJson_ne_null _ := Json.object_ne_null _

instance : LawfulJsonForm HealthBody where
  ofJson?_toJson _ := Json.slots?_bind rfl (by simp)
  isIntegral_toJson _ := Json.isIntegral_object (by simp)
  toJson_ne_null _ := Json.object_ne_null _

end Http

/-! ## Every text tells its value -/

/-- The text of a value is read back as that value, and is the text of no other one. -/
def TextTells (α : Type) [JsonForm α] : Prop :=
  (∀ a : α, (Json.ofText? (toJson a).text).bind ofJson? = some a) ∧
    Function.Injective fun a : α => (toJson a).text

theorem textTells (α : Type) [JsonForm α] [LawfulJsonForm α] : TextTells α :=
  ⟨ofText?_text, fun a b h =>
    toJson_injective (Json.text_inj (isIntegral_toJson a) (isIntegral_toJson b) h)⟩

theorem SwipeResult.text_injective :
    Function.Injective fun r : SwipeResult => r.toJson.text := fun r s h => by
  have hjson : r.toJson = s.toJson :=
    Json.text_inj (Json.isIntegral_object (by simp [Json.isIntegral]))
      (Json.isIntegral_object (by simp [Json.isIntegral])) h
  simp only [toJson, Json.object.injEq, List.cons.injEq, Prod.mk.injEq, Json.bool.injEq, true_and,
    and_true, optionJson_injective.eq_iff, toJson_injective.eq_iff] at hjson
  cases r; cases s
  simp_all

theorem UndoResult.text_injective :
    Function.Injective fun r : UndoResult => r.toJson.text := fun r s h => by
  have hjson : r.toJson = s.toJson :=
    Json.text_inj (Json.isIntegral_object (by simp)) (Json.isIntegral_object (by simp)) h
  simp only [toJson, Json.object.injEq, List.cons.injEq, Prod.mk.injEq, true_and,
    and_true, optionJson_injective.eq_iff, toJson_injective.eq_iff] at hjson
  cases r; cases s
  simp_all

/-- What the service stores and what it is sent can be told from its text, and so can each of its
answers. The results of a swipe and of taking one back are only written. -/
theorem texts_tell_values :
    (TextTells Like ∧ TextTells Match ∧ TextTells FriendRequest ∧ TextTells Conversation ∧
      TextTells Notification ∧ TextTells Block ∧ TextTells NotificationPayload) ∧
    (TextTells UserId ∧ TextTells PairId ∧ TextTells Uuid ∧ TextTells Instant) ∧
    (TextTells Direction ∧ TextTells MatchState ∧ TextTells ArchiveReason ∧
      TextTells FriendRequestStatus ∧ TextTells NotificationType) ∧
    (TextTells Http.SwipeBody ∧ TextTells Http.UndoBody ∧ TextTells Http.ProposalBody ∧
      TextTells Http.AnswerBody ∧ TextTells Http.ActionBody) ∧
    (TextTells Http.MatchesBody ∧ TextTells Http.RequestsBody ∧
      TextTells Http.NotificationsBody ∧ TextTells Http.BlocksBody ∧
      TextTells Http.RelationshipBody ∧ TextTells Http.UnblockBody ∧ TextTells Http.ErrorBody ∧
      TextTells Http.HealthBody) ∧
    Function.Injective (fun r : SwipeResult => r.toJson.text) ∧
    Function.Injective (fun r : UndoResult => r.toJson.text) := by
  refine ⟨⟨?_, ?_, ?_, ?_, ?_, ?_, ?_⟩, ⟨?_, ?_, ?_, ?_⟩, ⟨?_, ?_, ?_, ?_, ?_⟩,
    ⟨?_, ?_, ?_, ?_, ?_⟩, ⟨?_, ?_, ?_, ?_, ?_, ?_, ?_, ?_⟩, SwipeResult.text_injective,
    UndoResult.text_injective⟩ <;> exact textTells _

end Courtship
