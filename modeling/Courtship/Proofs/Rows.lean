import Courtship.Store.Rows
import Mathlib.Data.List.Nodup

/-! What a table holds, seen from its keys: the rows in it, and writing one of them. -/

namespace Courtship.Rows

variable {κ ν : Type} [Ord κ] [Std.TransOrd κ]

theorem values_eq (t : Rows κ ν) : t.values = t.toList.map Prod.snd := by
  obtain ⟨⟨q⟩⟩ := t
  induction q using Quotient.ind with
  | _ m =>
    change m.inner.values = (Std.DTreeMap.Internal.Impl.Const.toList m.inner).map Prod.snd
    simp [Std.DTreeMap.Internal.Impl.values_eq_map_snd,
      Std.DTreeMap.Internal.Impl.Const.toList_eq_toListModel_map]

theorem contains_eq (t : Rows κ ν) (key : κ) : t.contains key = t[key]?.isSome :=
  Std.ExtTreeMap.contains_eq_isSome_getElem?

theorem values_filter (t : Rows κ ν) (p : ν → Bool) :
    (t.filter fun _ row => p row).values = t.values.filter p := by
  rw [values_eq, values_eq, Std.ExtTreeMap.toList_filter, List.filter_map]
  rfl

theorem nodup_keys (t : Rows κ ν) : (t.toList.map Prod.fst).Nodup := by
  rw [Std.ExtTreeMap.map_fst_toList_eq_keys]
  exact Std.ExtTreeMap.nodup_keys

variable [Std.LawfulEqOrd κ]

theorem mem_values {t : Rows κ ν} {row : ν} : row ∈ t.values ↔ ∃ key : κ, t[key]? = some row := by
  rw [values_eq, List.mem_map]
  constructor
  · rintro ⟨⟨key, _⟩, h, rfl⟩
    exact ⟨key, Std.ExtTreeMap.mem_toList_iff_getElem?_eq_some.1 h⟩
  · rintro ⟨key, h⟩
    exact ⟨(key, row), Std.ExtTreeMap.mem_toList_iff_getElem?_eq_some.2 h, rfl⟩

/-- Tables whose rows look the same under `f`, key by key, have the same rows up to order. -/
theorem map_values_perm {β : Type} {t t' : Rows κ ν} {f : ν → β}
    (h : ∀ key : κ, t'[key]?.map f = t[key]?.map f) :
    (t'.values.map f).Perm (t.values.map f) := by
  have hnodup : ∀ rows : Rows κ ν, (rows.toList.map fun p => (p.1, f p.2)).Nodup := by
    intro rows
    apply List.Nodup.of_map Prod.fst
    rw [List.map_map]
    exact nodup_keys rows
  have hmem : ∀ (rows : Rows κ ν) (key : κ) (b : β),
      (key, b) ∈ rows.toList.map (fun p => (p.1, f p.2)) ↔ rows[key]?.map f = some b := by
    intro rows key b
    simp [List.mem_map, Std.ExtTreeMap.mem_toList_iff_getElem?_eq_some]
  have hperm := (List.perm_ext_iff_of_nodup (hnodup t') (hnodup t)).2
    fun ⟨key, b⟩ => by rw [hmem, hmem, h]
  simpa [values_eq, Function.comp_def] using hperm.map Prod.snd

/-- Two tables with the same rows of those that a scan picks give it the same ones, in the same
order. -/
theorem filter_values_congr {t t' : Rows κ ν} {p : ν → Bool}
    (h : ∀ (key : κ) (row : ν), p row = true → (t'[key]? = some row ↔ t[key]? = some row)) :
    t'.values.filter p = t.values.filter p := by
  rw [← values_filter, ← values_filter]
  congr 1
  apply Std.ExtTreeMap.ext_getElem?
  intro key
  apply Option.ext
  intro row
  rw [Std.ExtTreeMap.getElem?_filter, Std.ExtTreeMap.getElem?_filter]
  simp only [Option.pfilter_eq_filter, Option.filter_eq_some_iff]
  constructor
  · rintro ⟨hrow, hp⟩
    exact ⟨(h key row hp).1 hrow, hp⟩
  · rintro ⟨hrow, hp⟩
    exact ⟨(h key row hp).2 hrow, hp⟩

variable [DecidableEq κ]

theorem values_set_perm {t : Rows κ ν} {key : κ} (h : t[key]? = none) (row : ν) :
    (t.set key (some row)).values.Perm (row :: t.values) := by
  have hnew : (key, row) ∉ t.toList := by
    rw [Std.ExtTreeMap.mem_toList_iff_getElem?_eq_some, h]
    simp
  have hperm : (t.set key (some row)).toList.Perm ((key, row) :: t.toList) := by
    rw [List.perm_ext_iff_of_nodup (nodup_keys _).of_map
      (List.nodup_cons.2 ⟨hnew, (nodup_keys t).of_map⟩)]
    rintro ⟨other, found⟩
    rw [List.mem_cons, Std.ExtTreeMap.mem_toList_iff_getElem?_eq_some,
      Std.ExtTreeMap.mem_toList_iff_getElem?_eq_some, get?_set, Prod.mk.injEq]
    split
    · rename_i hkey
      subst hkey
      simp [h, eq_comm]
    · rename_i hkey
      simp [Ne.symm hkey]
  rw [values_eq, values_eq]
  exact hperm.map Prod.snd

@[simp] theorem getElem?_set_self (t : Rows κ ν) (key : κ) (row : Option ν) :
    (t.set key row)[key]? = row := by
  rw [get?_set, if_pos rfl]

theorem getElem?_set_of_ne (t : Rows κ ν) {key other : κ} (h : key ≠ other) (row : Option ν) :
    (t.set key row)[other]? = t[other]? := by
  rw [get?_set, if_neg h]

/-- A relation between the rows before and after one is written, which holds of the rows that stay,
holds of all if it does of the one written. -/
theorem rel_set {R : κ → Option ν → Option ν → Prop} {t : Rows κ ν} {key : κ} {row : Option ν}
    (hrow : R key t[key]? row) (hsame : ∀ other found, R other found found) (other : κ) :
    R other t[other]? (t.set key row)[other]? := by
  rw [get?_set]
  split
  · rename_i hkey
    rw [← hkey]
    exact hrow
  · exact hsame other _

/-- A row in the place of another one, or none in the place of none. -/
theorem isSome_getElem?_set {t : Rows κ ν} {key : κ} {row : Option ν}
    (h : row.isSome = t[key]?.isSome) (other : κ) :
    (t.set key row)[other]?.isSome = t[other]?.isSome := by
  rw [get?_set]
  split
  · rename_i hkey
    rw [h, hkey]
  · rfl

/-- Writing what is there already changes nothing. -/
theorem set_eq_self {t : Rows κ ν} {key : κ} {row : Option ν} (h : t[key]? = row) :
    t.set key row = t := by
  apply Std.ExtTreeMap.ext_getElem?
  intro other
  rw [get?_set]
  split
  · rename_i hk
    rw [← h, hk]
  · rfl

/-- Of two writes under one key the second one counts. -/
theorem set_set (t : Rows κ ν) (key : κ) (first second : Option ν) :
    (t.set key first).set key second = t.set key second := by
  apply Std.ExtTreeMap.ext_getElem?
  intro other
  simp only [get?_set]
  split <;> rfl

end Courtship.Rows
