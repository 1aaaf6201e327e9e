import Courtship.Proofs.Settings.Fields
import Mathlib.Data.List.Induction

/-! What layers do to one setting. An assignment writes to it or leaves it alone, and of all that is
written only the last value that says anything is left. -/

namespace Courtship

/-! ## Setting a key -/

namespace Toml

/-- What stands at a place after a write to it: a value, and steps that lead on from the place. -/
def written (old : Option Toml) : List Step × Toml → Toml
  | ([], .table es) => setKeys es (old.getD (.table []))
  | ([], v) => v
  | (step :: rest, v) => setAt v (step :: rest) (old.getD .hole)

/-- What stands there after many of them. -/
def afterWrites (old : Option Toml) (ws : List (List Step × Toml)) : Option Toml :=
  ws.foldl (fun old w => some (written old w)) old

theorem afterWrites_append (old : Option Toml) (ws more : List (List Step × Toml)) :
    afterWrites old (ws ++ more) = afterWrites (afterWrites old ws) more :=
  List.foldl_append

theorem entries_getD (old : Option Toml) (other : Toml) (h : other.entries = []) :
    (old.getD other).entries = (old.map entries).getD [] := by
  cases old <;> simp [h]

theorem written_table (old : Option Toml) (es : List (String × Toml)) :
    written old ([], .table es) = setKeys es (old.getD (.table [])) := rfl

theorem lookup_setAt (key n : String) (rest : List Step) (v root : Toml) :
    lookup key (setAt v (.key n :: rest) root).entries =
      if lowered n = key then some (written (lookup key root.entries) (rest, v))
      else lookup key root.entries := by
  split
  next h =>
    subst h
    cases rest with
    | nil => cases v <;> simp [setAt, setKey, entries, lookup_assign_self, written]
    | cons step rest => simp [setAt, entries, lookup_assign_self, written]
  next h =>
    have h : key ≠ lowered n := Ne.symm h
    cases rest with
    | nil => cases v <;> simp [setAt, setKey, entries, lookup_assign_of_ne h]
    | cons step rest => simp [setAt, entries, lookup_assign_of_ne h]

/-- The keys of a table are set in their order. -/
theorem lookup_setKeys (key : String) (es : List (String × Toml)) (root : Toml) :
    lookup key (setKeys es root).entries =
      afterWrites (lookup key root.entries)
        ((es.filter fun e => lowered e.1 = key).map fun e => ([], e.2)) := by
  induction es generalizing root with
  | nil => simp [setKeys, afterWrites]
  | cons e es ih =>
    have hset : setKey e.1 e.2 root = setAt e.2 [.key e.1] root := by simp [setAt]
    rw [setKeys, ih, hset, lookup_setAt]
    by_cases h : lowered e.1 = key <;> simp [h, afterWrites]

theorem setAt_isTable (n : String) (rest : List Step) (v root : Toml) :
    ∃ es, setAt v (.key n :: rest) root = .table es := by
  cases rest with
  | nil => cases v <;> simp [setAt, setKey]
  | cons step rest => simp [setAt]

theorem setKeys_cons_isTable (e : String × Toml) (es : List (String × Toml)) (root : Toml) :
    ∃ new, setKeys (e :: es) root = .table new := by
  induction es generalizing e root with
  | nil =>
    rw [setKeys, setKeys]
    simpa [setAt] using setAt_isTable e.1 [] e.2 root
  | cons next es ih =>
    rw [setKeys]
    exact ih next _

theorem setKeys_isTable (es : List (String × Toml)) {root : Toml} (h : ∃ old, root = .table old) :
    ∃ new, setKeys es root = .table new := by
  cases es with
  | nil => simpa [setKeys] using h
  | cons e es => exact setKeys_cons_isTable e es root

end Toml

/-! ## Writing to a setting -/

namespace Setting

/-- What an assignment writes to a setting. -/
def writes (f : Setting) : List Toml.Step × Toml → List (List Toml.Step × Toml)
  | (.key s :: .key n :: rest, v) =>
    if lowered s = f.sectionName ∧ lowered n = f.name then [(rest, v)] else []
  | ([.key s], v) =>
    if lowered s = f.sectionName then
      (v.entries.filter fun e => lowered e.1 = f.name).map fun e => ([], e.2)
    else []
  | _ => []

end Setting

namespace Toml

def isSection (name : String) : Bool :=
  ["server", "database", "matching", "relationships", "logging"].contains (lowered name)

/-- Whether an assignment gives no section a value that is no table. -/
def keepsSections : List Step × Toml → Bool
  | ([.key _], .table _) => true
  | ([.key s], _) => !isSection s
  | (.key s :: .item _ :: _, _) => !isSection s
  | _ => true

end Toml

namespace Setting

variable (f : Setting)

theorem isSection_of_eq {s : String} (h : lowered s = f.sectionName) :
    Toml.isSection s = true := by
  rw [Toml.isSection, h]
  cases f <;> decide

theorem writes_of_ne {s : String} (h : lowered s ≠ f.sectionName) (rest : List Toml.Step)
    (v : Toml) : f.writes (.key s :: rest, v) = [] := by
  cases rest with
  | nil => simp [writes, h]
  | cons step rest => cases step <;> simp [writes, h]

/-- A section gets a table, or a value somewhere within it. -/
theorem shape_of_keepsSections {s : String} {rest : List Toml.Step} {v : Toml}
    (hs : lowered s = f.sectionName) (hkeep : Toml.keepsSections (.key s :: rest, v) = true) :
    (rest = [] ∧ ∃ es, v = .table es) ∨ ∃ n inner, rest = .key n :: inner := by
  have hsection := f.isSection_of_eq hs
  match rest with
  | [] => cases v <;> simp_all [Toml.keepsSections]
  | .key n :: inner => exact .inr ⟨n, inner, rfl⟩
  | .item _ :: _ => simp [Toml.keepsSections, hsection] at hkeep

/-- Another section is left alone, and a section only changes where it is written to. -/
theorem value?_setAt (s : String) (rest : List Toml.Step) (v root : Toml)
    (hkeep : Toml.keepsSections (.key s :: rest, v) = true) :
    f.value? (Toml.setAt v (.key s :: rest) root) =
      Toml.afterWrites (f.value? root) (f.writes (.key s :: rest, v)) := by
  rw [value?, value?, Toml.sectionEntries, Toml.sectionEntries, Toml.lookup_setAt]
  by_cases hs : lowered s = f.sectionName
  · rw [if_pos hs]
    generalize Toml.lookup f.sectionName root.entries = old
    obtain ⟨rfl, es, rfl⟩ | ⟨n, inner, rfl⟩ := f.shape_of_keepsSections hs hkeep
    · have hes : (Toml.table es).entries = es := rfl
      simp [Toml.written_table, Toml.lookup_setKeys, Toml.entries_getD old (.table []) rfl,
        writes, hs, hes]
    · by_cases hn : lowered n = f.name <;>
        simp [Toml.written, Toml.lookup_setAt, Toml.entries_getD old .hole rfl, writes, hs, hn,
          Toml.afterWrites]
  · rw [if_neg hs, f.writes_of_ne hs]
    rfl

end Setting

theorem Toml.IsSectioned.setAt {root : Toml} (h : root.IsSectioned) (s : String)
    (rest : List Toml.Step) (v : Toml)
    (hkeep : Toml.keepsSections (.key s :: rest, v) = true) :
    (Toml.setAt v (.key s :: rest) root).IsSectioned where
  isTable := setAt_isTable s rest v root
  sections f w hw := by
    rw [lookup_setAt] at hw
    split at hw
    next hs =>
      obtain rfl := Option.some.inj hw
      obtain ⟨rfl, es, rfl⟩ | ⟨n, inner, rfl⟩ := f.shape_of_keepsSections hs hkeep
      · refine setKeys_isTable es ?_
        cases hold : lookup f.sectionName root.entries with
        | none => exact ⟨[], rfl⟩
        | some old => exact h.sections f old hold
      · exact setAt_isTable n inner v _
    next => exact h.sections f w hw

/-! ## The last value -/

/-- Whether a value is a table with nothing in it. -/
def Toml.isEmpty : Toml → Bool
  | .table [] => true
  | _ => false

/-- The values that writes leave where nothing is. A table with nothing in it is no value. -/
def Toml.given (ws : List (List Step × Toml)) : List Toml :=
  (ws.map fun w => setAt w.2 w.1 .hole).filter fun v => !v.isEmpty

namespace Toml

theorem given_append (ws more : List (List Step × Toml)) :
    given (ws ++ more) = given ws ++ given more := by
  rw [given, List.map_append, List.filter_append]
  rfl

theorem given_flatMap {α : Type} (f : α → List (List Step × Toml)) (xs : List α) :
    given (xs.flatMap f) = xs.flatMap fun x => given (f x) := by
  rw [given, List.map_flatMap, List.filter_flatMap]
  rfl

theorem setAt_cons (step : Step) (rest : List Step) (v root : Toml) :
    (∃ es, setAt v (step :: rest) root = .table es) ∨
      ∃ vs, setAt v (step :: rest) root = .array vs := by
  cases step with
  | key n => exact .inl (setAt_isTable n rest v root)
  | item i => simp [setAt]

/-- If neither a table nor an array is left, then it is the last value that was given: only an
empty table leaves in place what was there. -/
theorem getLast?_of_afterWrites {x : Toml} (htable : ∀ es, x ≠ .table es)
    (harray : ∀ vs, x ≠ .array vs) {ws : List (List Step × Toml)}
    (h : afterWrites none ws = some x) : (given ws).getLast? = some x := by
  -- backwards: the last write settles what stands, unless it is the one that changes nothing
  induction ws using List.reverseRecOn with
  | nil => simp [afterWrites] at h
  | append_singleton ws w ih =>
    rw [afterWrites_append] at h
    have h : written (afterWrites none ws) w = x := Option.some.inj h
    rw [given_append]
    match w with
    | (step :: rest, v) =>
      rcases setAt_cons step rest v _ with ⟨es, hes⟩ | ⟨vs, hvs⟩
      · exact absurd (h.symm.trans hes) (htable es)
      · exact absurd (h.symm.trans hvs) (harray vs)
    | ([], .table []) =>
      -- over nothing it would leave itself, which is a table
      have hold : afterWrites none ws = some x := by
        cases hws : afterWrites none ws with
        | none => exact absurd (by rw [← h, hws, written_table]; rfl) (htable [])
        | some old => rw [← h, hws, written_table]; rfl
      simpa [given, setAt, isEmpty] using ih hold
    | ([], .table (e :: es)) =>
      obtain ⟨new, hnew⟩ := setKeys_cons_isTable e es _
      exact absurd (h.symm.trans hnew) (htable new)
    | ([], .hole) | ([], .bool _) | ([], .int _) | ([], .float _) | ([], .string _)
    | ([], .array _) =>
      subst h
      simp [given, setAt, isEmpty, written]

/-- Where something was written, something stands. -/
theorem eq_nil_of_afterWrites {old : Option Toml} {ws : List (List Step × Toml)}
    (h : afterWrites old ws = none) : ws = [] := by
  cases ws using List.reverseRecOn with
  | nil => rfl
  | append_singleton ws w => simp [afterWrites] at h

end Toml

/-- A setting is the last value that was given to it, or else its default. -/
theorem Setting.of?_getLast? (f : Setting) {x : f.Value} {ws : List (List Toml.Step × Toml)}
    (h : f.of? (Toml.afterWrites none ws) = some x) :
    f.of? (Toml.given ws).getLast? = some x := by
  cases hws : Toml.afterWrites none ws with
  | none =>
    obtain rfl := Toml.eq_nil_of_afterWrites hws
    exact h
  | some v =>
    rw [hws] at h
    have htable (es) : v ≠ .table es := by
      rintro rfl
      exact absurd ((f.read?_table es).symm.trans h) (by simp)
    have harray (vs) : v ≠ .array vs := by
      rintro rfl
      exact absurd ((f.read?_array vs).symm.trans h) (by simp)
    rw [Toml.getLast?_of_afterWrites htable harray hws]
    exact h

/-! ## Layers -/

namespace Layer

/-- Whether all that a layer sets is within the table of all settings. -/
def IsRooted (l : Layer) : Prop := ∀ a ∈ l.assignments, ∃ s rest, a.1 = .key s :: rest

/-- Whether a layer gives no section a value that is no table. -/
def HasSections (l : Layer) : Prop := ∀ a ∈ l.assignments, Toml.keepsSections a = true

instance (l : Layer) : Decidable l.HasSections :=
  inferInstanceAs (Decidable (∀ a ∈ l.assignments, Toml.keepsSections a = true))

/-- The value that a layer sets for a setting, the last one if it sets more than one. -/
def value? (l : Layer) (f : Setting) : Option Toml :=
  (Toml.given (l.assignments.flatMap f.writes)).getLast?

/-- The value of the last layer that sets one for a setting. -/
def lastValue? (layers : List Layer) (f : Setting) : Option Toml :=
  layers.reverse.findSome? fun l => l.value? f

theorem foldl_laidOver (layers : List Layer) (root : Toml) :
    layers.foldl (fun root l => l.laidOver root) root =
      (layers.flatMap Layer.assignments).foldl (fun root a => Toml.setAt a.2 a.1 root) root := by
  rw [List.foldl_flatMap]
  rfl

/-- A run of assignments keeps sections, and changes a setting by what is written to it. -/
theorem run_assignments {as : List (List Toml.Step × Toml)}
    (hrooted : ∀ a ∈ as, ∃ s rest, a.1 = .key s :: rest)
    (hkeep : ∀ a ∈ as, Toml.keepsSections a = true) {root : Toml} (hroot : root.IsSectioned) :
    (as.foldl (fun root a => Toml.setAt a.2 a.1 root) root).IsSectioned ∧
      ∀ f : Setting, f.value? (as.foldl (fun root a => Toml.setAt a.2 a.1 root) root) =
        Toml.afterWrites (f.value? root) (as.flatMap f.writes) := by
  induction as generalizing root with
  | nil => exact ⟨hroot, fun f => rfl⟩
  | cons a as ih =>
    obtain ⟨path, v⟩ := a
    obtain ⟨s, rest, rfl⟩ := hrooted _ (.head _)
    have hkept := hkeep _ (.head _)
    obtain ⟨hsections, hvalues⟩ := ih (fun a ha => hrooted a (.tail _ ha))
      (fun a ha => hkeep a (.tail _ ha)) (hroot.setAt s rest v hkept)
    refine ⟨hsections, fun f => ?_⟩
    rw [List.foldl_cons, hvalues, f.value?_setAt s rest v root hkept, List.flatMap_cons,
      Toml.afterWrites_append]

variable {layers : List Layer} (hrooted : ∀ l ∈ layers, l.IsRooted)
  (hsections : ∀ l ∈ layers, l.HasSections)

include hrooted hsections

theorem merged_spec : (merged layers).IsSectioned ∧
    ∀ f : Setting, f.value? (merged layers) =
      Toml.afterWrites none ((layers.flatMap Layer.assignments).flatMap f.writes) := by
  rw [merged, foldl_laidOver]
  refine run_assignments (fun a ha => ?_) (fun a ha => ?_) Toml.isSectioned_nil
  all_goals obtain ⟨l, hl, ha⟩ := List.mem_flatMap.mp ha
  · exact hrooted l hl a ha
  · exact hsections l hl a ha

/-- A setting is read from the value that the last layer sets that sets one. -/
theorem of?_lastValue? {s : Settings} (h : ofToml? (merged layers) = some s) (f : Setting) :
    f.of? (lastValue? layers f) = some (f.get s) := by
  obtain ⟨hsectioned, hvalues⟩ := merged_spec hrooted hsections
  have hread := (ofToml?_settings hsectioned s).mp h f
  rw [hvalues] at hread
  have hlast : lastValue? layers f =
      (Toml.given ((layers.flatMap Layer.assignments).flatMap f.writes)).getLast? := by
    rw [List.flatMap_assoc, Toml.given_flatMap, List.getLast?_flatMap]
    rfl
  rw [hlast]
  exact f.of?_getLast? hread

end Layer

end Courtship
