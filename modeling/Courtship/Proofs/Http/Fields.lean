import Courtship.Http.Body
import Mathlib.Data.List.Forall2

/-! The bodies of requests, field by field: what a body has to hold for each of them, and that it
does not matter in which of its styles a field is named. -/

namespace Courtship

namespace Json

/-- What the JSON of a record with `count` fields has for the field at `place`: the value of the one
member that bears a name of it, or the item at that place. -/
inductive FieldIs (names : List String) (place count : Nat) : Json → Json → Prop
  | member {members : List (String × Json)} {m : String × Json}
      (h : (members.filter fun m => names.contains m.1) = [m]) :
      FieldIs names place count (.object members) m.2
  | item {items : List Json} {field : Json} (hcount : items.length = count)
      (h : items[place]? = some field) : FieldIs names place count (.array items) field

/-- The field holds `a`. -/
def HasField {α : Type} [JsonForm α] (j : Json) (names : List String) (place count : Nat) (a : α) :
    Prop :=
  ∃ field, FieldIs names place count j field ∧ ofJson? field = some a

/-! ## Reading -/

theorem memberSlot_eq_given_iff {names : List String} {members : List (String × Json)}
    {place count : Nat} {field : Json} :
    memberSlot names members = some (.given field) ↔
      FieldIs names place count (.object members) field := by
  constructor
  · intro h
    unfold memberSlot at h
    split at h
    · cases h
    · rename_i m hm
      cases h
      exact .member hm
    · cases h
  · rintro (⟨hm⟩ | _)
    simp only [memberSlot, hm]

theorem mapM_memberSlot_iff {fields : List (List String)} {members : List (String × Json)}
    {values : List Json} (first count : Nat) :
    (fields.mapM fun names => memberSlot names members) = some (values.map .given) ↔
      List.Forall₂ (fun (field : List String × Nat) value =>
        FieldIs field.1 field.2 count (.object members) value) (fields.zipIdx first) values := by
  induction fields generalizing first values with
  | nil => simp [eq_comm]
  | cons names fields ih =>
    cases values with
    | nil => simp [List.mapM_cons, Option.bind_eq_some_iff]
    | cons value values =>
      rw [List.zipIdx_cons, List.forall₂_cons, ← ih, ← memberSlot_eq_given_iff, List.mapM_cons]
      simp only [Option.bind_eq_bind, Option.bind_eq_some_iff, Option.pure_def,
        Option.some.injEq, List.map_cons, List.cons.injEq]
      constructor
      · rintro ⟨slot, hslot, slots, hslots, rfl, rfl⟩
        exact ⟨hslot, hslots⟩
      · rintro ⟨hslot, hslots⟩
        exact ⟨_, hslot, _, hslots, rfl, rfl⟩

/-- In an array no field may be left out. -/
theorem slots?_array_iff {fields : List (List String)} {items values : List Json} :
    slots? fields (.array items) = some (values.map .given) ↔
      items.length = fields.length ∧ items = values := by
  have hinj : Function.Injective Slot.given := fun _ _ h => Slot.given.inj h
  constructor
  · intro h
    simp only [slots?] at h
    split at h
    · cases h
    · rename_i hle
      have h := Option.some.inj h
      have hnone : fields.length - items.length = 0 := by
        by_contra hpos
        have hmem : Slot.beyond ∈ values.map Slot.given := by
          rw [← h]
          simp [hpos]
        simp at hmem
      rw [hnone, List.replicate_zero, List.append_nil] at h
      exact ⟨by omega, List.map_injective_iff.2 hinj h⟩
  · rintro ⟨hlength, rfl⟩
    simp [slots?, hlength]

theorem forall₂_array_iff {fields : List (List String)} {items values : List Json}
    (hne : fields ≠ []) :
    List.Forall₂ (fun (field : List String × Nat) value =>
        FieldIs field.1 field.2 fields.length (.array items) value) fields.zipIdx values ↔
      items.length = fields.length ∧ items = values := by
  rw [List.forall₂_iff_get]
  constructor
  · rintro ⟨hlength, hfields⟩
    rw [List.length_zipIdx] at hlength
    have hitem (i : Nat) (hi : i < fields.length) :
        items.length = fields.length ∧ items[i]? = some values[i] := by
      have := hfields i (by simpa using hi) (by omega)
      obtain _ | ⟨hcount, h⟩ := this
      simp_all
    have hpos : 0 < fields.length := List.length_pos_iff.2 hne
    have hcount := (hitem 0 hpos).1
    refine ⟨hcount, List.ext_getElem (by omega) fun i hi hi' => ?_⟩
    have := (hitem i (by omega)).2
    rw [List.getElem?_eq_getElem hi] at this
    exact Option.some.inj this
  · rintro ⟨hlength, rfl⟩
    refine ⟨by rw [List.length_zipIdx, hlength], fun i hi hi' => .item hlength ?_⟩
    simp

/-- A record is read in full where every field is there. -/
theorem slots?_eq_given_iff (fields : List (List String)) (values : List Json) (hne : fields ≠ [])
    (j : Json) :
    slots? fields j = some (values.map .given) ↔
      List.Forall₂ (fun (field : List String × Nat) value =>
        FieldIs field.1 field.2 fields.length j value) fields.zipIdx values := by
  cases j with
  | object members => exact mapM_memberSlot_iff 0 _
  | array items => rw [slots?_array_iff, forall₂_array_iff hne]
  | _ =>
    obtain ⟨names, fields, rfl⟩ := List.exists_cons_of_ne_nil hne
    simp only [slots?, reduceCtorEq, List.zipIdx_cons, false_iff]
    rintro (_ | ⟨⟨⟩, _⟩)

theorem Slot.required_eq_some_iff {α : Type} [JsonForm α] {slot : Slot} {a : α} :
    slot.required = some a ↔ ∃ value, slot = .given value ∧ ofJson? value = some a := by
  cases slot <;> simp [required]

variable {α β γ δ : Type} [JsonForm α] [JsonForm β] [JsonForm γ] {m n o : List String} {j : Json}

theorem read_one {f : α → δ} {d : δ} :
    ((slots? [m] j).bind fun
      | [r] => r.required.bind fun a => some (f a)
      | _ => none) = some d ↔ ∃ a, j.HasField m 0 1 a ∧ f a = d := by
  constructor
  · intro h
    obtain ⟨slots, hslots, h⟩ := Option.bind_eq_some_iff.1 h
    split at h
    · simp only [Option.bind_eq_some_iff, Slot.required_eq_some_iff, Option.some.injEq] at h
      obtain ⟨a, ⟨u, rfl, ha⟩, rfl⟩ := h
      have hfields := (slots?_eq_given_iff [m] [u] (by simp) j).1 hslots
      simp only [List.zipIdx_cons, List.zipIdx_nil, List.forall₂_cons] at hfields
      exact ⟨a, ⟨u, hfields.1, ha⟩, rfl⟩
    · cases h
  · rintro ⟨a, ⟨u, hu, ha⟩, rfl⟩
    have hslots := (slots?_eq_given_iff [m] [u] (by simp) j).2 (.cons hu .nil)
    simp [hslots, Slot.required, ha]

theorem read_two {f : α → β → δ} {d : δ} :
    ((slots? [m, n] j).bind fun
      | [r, s] => r.required.bind fun a => s.required.bind fun b => some (f a b)
      | _ => none) = some d ↔
      ∃ a b, j.HasField m 0 2 a ∧ j.HasField n 1 2 b ∧ f a b = d := by
  constructor
  · intro h
    obtain ⟨slots, hslots, h⟩ := Option.bind_eq_some_iff.1 h
    split at h
    · simp only [Option.bind_eq_some_iff, Slot.required_eq_some_iff, Option.some.injEq] at h
      obtain ⟨a, ⟨u, rfl, ha⟩, b, ⟨v, rfl, hb⟩, rfl⟩ := h
      have hfields := (slots?_eq_given_iff [m, n] [u, v] (by simp) j).1 hslots
      simp only [List.zipIdx_cons, List.zipIdx_nil, List.forall₂_cons] at hfields
      exact ⟨a, b, ⟨u, hfields.1, ha⟩, ⟨v, hfields.2.1, hb⟩, rfl⟩
    · cases h
  · rintro ⟨a, b, ⟨u, hu, ha⟩, ⟨v, hv, hb⟩, rfl⟩
    have hslots := (slots?_eq_given_iff [m, n] [u, v] (by simp) j).2
      (.cons hu (.cons hv .nil))
    simp [hslots, Slot.required, ha, hb]

theorem read_three {f : α → β → γ → δ} {d : δ} :
    ((slots? [m, n, o] j).bind fun
      | [r, s, t] => r.required.bind fun a => s.required.bind fun b => t.required.bind fun c =>
        some (f a b c)
      | _ => none) = some d ↔
      ∃ a b c, j.HasField m 0 3 a ∧ j.HasField n 1 3 b ∧ j.HasField o 2 3 c ∧ f a b c = d := by
  constructor
  · intro h
    obtain ⟨slots, hslots, h⟩ := Option.bind_eq_some_iff.1 h
    split at h
    · simp only [Option.bind_eq_some_iff, Slot.required_eq_some_iff, Option.some.injEq] at h
      obtain ⟨a, ⟨u, rfl, ha⟩, b, ⟨v, rfl, hb⟩, c, ⟨w, rfl, hc⟩, rfl⟩ := h
      have hfields := (slots?_eq_given_iff [m, n, o] [u, v, w] (by simp) j).1 hslots
      simp only [List.zipIdx_cons, List.zipIdx_nil, List.forall₂_cons] at hfields
      exact ⟨a, b, c, ⟨u, hfields.1, ha⟩, ⟨v, hfields.2.1, hb⟩, ⟨w, hfields.2.2.1, hc⟩, rfl⟩
    · cases h
  · rintro ⟨a, b, c, ⟨u, hu, ha⟩, ⟨v, hv, hb⟩, ⟨w, hw, hc⟩, rfl⟩
    have hslots := (slots?_eq_given_iff [m, n, o] [u, v, w] (by simp) j).2
      (.cons hu (.cons hv (.cons hw .nil)))
    simp [hslots, Slot.required, ha, hb, hc]

end Json

/-! ## Bodies -/

namespace Http

variable {j : Json}

theorem SwipeBody.ofJson?_iff {b : SwipeBody} : ofJson? j = some b ↔
    j.HasField ["userId", "user_id"] 0 3 b.user ∧
    j.HasField ["targetUserId", "target_user_id"] 1 3 b.target ∧
    j.HasField ["direction"] 2 3 b.direction := by
  refine Json.read_three.trans ⟨?_, fun ⟨hu, ht, hd⟩ => ⟨_, _, _, hu, ht, hd, rfl⟩⟩
  rintro ⟨_, _, _, hu, ht, hd, rfl⟩
  exact ⟨hu, ht, hd⟩

theorem UndoBody.ofJson?_iff {b : UndoBody} : ofJson? j = some b ↔
    j.HasField ["userId", "user_id"] 0 1 b.user := by
  refine Json.read_one.trans ⟨?_, fun hu => ⟨_, hu, rfl⟩⟩
  rintro ⟨_, hu, rfl⟩
  exact hu

theorem ProposalBody.ofJson?_iff {b : ProposalBody} : ofJson? j = some b ↔
    j.HasField ["fromUserId", "from_user_id"] 0 3 b.sender ∧
    j.HasField ["toUserId", "to_user_id"] 1 3 b.recipient ∧
    j.HasField ["message"] 2 3 b.message := by
  refine Json.read_three.trans ⟨?_, fun ⟨hs, hr, hm⟩ => ⟨_, _, _, hs, hr, hm, rfl⟩⟩
  rintro ⟨_, _, _, hs, hr, hm, rfl⟩
  exact ⟨hs, hr, hm⟩

theorem AnswerBody.ofJson?_iff {b : AnswerBody} : ofJson? j = some b ↔
    j.HasField ["responderId", "responder_id"] 0 2 b.responder ∧
    j.HasField ["accept"] 1 2 b.accept := by
  refine Json.read_two.trans ⟨?_, fun ⟨hr, ha⟩ => ⟨_, _, hr, ha, rfl⟩⟩
  rintro ⟨_, _, hr, ha, rfl⟩
  exact ⟨hr, ha⟩

theorem ActionBody.ofJson?_iff {b : ActionBody} : ofJson? j = some b ↔
    j.HasField ["userId", "user_id"] 0 2 b.user ∧
    j.HasField ["targetUserId", "target_user_id"] 1 2 b.target := by
  refine Json.read_two.trans ⟨?_, fun ⟨hu, ht⟩ => ⟨_, _, hu, ht, rfl⟩⟩
  rintro ⟨_, _, hu, ht, rfl⟩
  exact ⟨hu, ht⟩

/-! ## Styles of names -/

/-- The names of a field, in camel case and in snake case. -/
def nameStyles : List (String × String) :=
  [("userId", "user_id"), ("targetUserId", "target_user_id"), ("fromUserId", "from_user_id"),
    ("toUserId", "to_user_id"), ("responderId", "responder_id")]

/-- Whether the names are equal or name one field in two styles. -/
def SameName (a b : String) : Prop := a = b ∨ (a, b) ∈ nameStyles ∨ (b, a) ∈ nameStyles

/-- The same JSON up to the styles of the names in an object. -/
inductive SameButStyle : Json → Json → Prop
  | same (j : Json) : SameButStyle j j
  | object {members others : List (String × Json)}
      (h : List.Forall₂ (fun m n => SameName m.1 n.1 ∧ m.2 = n.2) members others) :
      SameButStyle (.object members) (.object others)

/-- Whether the names belong to a field in every style that one of them has. -/
def CoversStyles (names : List String) : Prop :=
  ∀ s ∈ nameStyles, names.contains s.1 = names.contains s.2

theorem CoversStyles.contains_eq {names : List String} (hnames : CoversStyles names)
    {a b : String} (h : SameName a b) : names.contains a = names.contains b := by
  rcases h with rfl | h | h
  · rfl
  · exact hnames _ h
  · exact (hnames _ h).symm

theorem CoversStyles.map_filter_eq {names : List String} (hnames : CoversStyles names)
    {members others : List (String × Json)}
    (h : List.Forall₂ (fun m n => SameName m.1 n.1 ∧ m.2 = n.2) members others) :
    (members.filter fun m => names.contains m.1).map Prod.snd =
      (others.filter fun m => names.contains m.1).map Prod.snd := by
  induction h with
  | nil => rfl
  | cons hhead _ ih =>
    have hcontains := hnames.contains_eq hhead.1
    rw [List.filter_cons, List.filter_cons, hcontains]
    split
    · rw [List.map_cons, List.map_cons, ih, hhead.2]
    · exact ih

/-- Which style a field is named in does not matter. -/
theorem memberSlot_congr {names : List String} {members others : List (String × Json)}
    (h : (members.filter fun m => names.contains m.1).map Prod.snd =
      (others.filter fun m => names.contains m.1).map Prod.snd) :
    Json.memberSlot names members = Json.memberSlot names others := by
  unfold Json.memberSlot
  generalize members.filter (fun m => names.contains m.1) = found at h ⊢
  generalize others.filter (fun m => names.contains m.1) = found' at h ⊢
  rcases found with _ | ⟨m, _ | ⟨m', found⟩⟩ <;> rcases found' with _ | ⟨n, _ | ⟨n', found'⟩⟩ <;>
    simp_all

theorem slots?_congr {fields : List (List String)} {j k : Json} (h : SameButStyle j k)
    (hfields : ∀ names ∈ fields, CoversStyles names) : j.slots? fields = k.slots? fields := by
  obtain _ | hmembers := h
  · rfl
  · simp only [Json.slots?]
    induction fields with
    | nil => rfl
    | cons names fields ih =>
      obtain ⟨hnames, hfields⟩ := List.forall_mem_cons.1 hfields
      rw [List.mapM_cons, List.mapM_cons, ih hfields,
        memberSlot_congr (hnames.map_filter_eq hmembers)]

theorem SwipeBody.ofJson?_congr {j k : Json} (h : SameButStyle j k) :
    (ofJson? j : Option SwipeBody) = ofJson? k :=
  congrArg (Option.bind · _) (slots?_congr h (by simp [CoversStyles, nameStyles, userNames,
    targetNames]))

theorem UndoBody.ofJson?_congr {j k : Json} (h : SameButStyle j k) :
    (ofJson? j : Option UndoBody) = ofJson? k :=
  congrArg (Option.bind · _) (slots?_congr h (by simp [CoversStyles, nameStyles, userNames]))

theorem ProposalBody.ofJson?_congr {j k : Json} (h : SameButStyle j k) :
    (ofJson? j : Option ProposalBody) = ofJson? k :=
  congrArg (Option.bind · _) (slots?_congr h (by simp [CoversStyles, nameStyles]))

theorem AnswerBody.ofJson?_congr {j k : Json} (h : SameButStyle j k) :
    (ofJson? j : Option AnswerBody) = ofJson? k :=
  congrArg (Option.bind · _) (slots?_congr h (by simp [CoversStyles, nameStyles]))

theorem ActionBody.ofJson?_congr {j k : Json} (h : SameButStyle j k) :
    (ofJson? j : Option ActionBody) = ofJson? k :=
  congrArg (Option.bind · _) (slots?_congr h (by simp [CoversStyles, nameStyles, userNames,
    targetNames]))

end Http

end Courtship
