import AgentCohort.Settings.Files

/-!
# Where settings files are looked for

A settings file is looked for at its path and, where there is none, at the path with each
extension.  What is anywhere else has no bearing on which file is found.  Neither has the order
in which a hash map yields the kinds, unless several of the extensions lead to a file: then the
first of them counts.
-/

namespace AgentCohort
namespace Settings
namespace SettingsFile

variable {store other : FileStore} {text : String} {path : FilePath}
  {tried reordered : List (FileKind × String)}

/-- The places at which a settings file is looked for: its path, and where there is no file also
the path with each extension. -/
def places (store : FileStore) (text : String) : List FilePath :=
  let path := FilePath.ofText text
  if FilePath.namesDirectory text ∨ store.entry path = .absent then
    path :: store.formats.extensions.map fun kindOf => withExtension path kindOf.2
  else [path]

/-- At most one of the extensions leads to a file. -/
def IsUnambiguous
    (store : FileStore)
    (path : FilePath)
    (tried : List (FileKind × String)) : Prop :=
  ∀ first ∈ tried, ∀ second ∈ tried,
    store.entry (withExtension path first.2) ≠ .absent →
      store.entry (withExtension path second.2) ≠ .absent → first = second

/-! ## Other files -/

theorem findExtended?_congr
    (same : ∀ kindOf ∈ tried, other.entry (withExtension path kindOf.2) =
      store.entry (withExtension path kindOf.2)) :
    findExtended? other path tried = findExtended? store path tried := by
  induction tried with
  | nil => rfl
  | cons kindOf tried inductionHypothesis =>
      obtain ⟨here, later⟩ := List.forall_mem_cons.mp same
      rw [findExtended?, findExtended?, here, inductionHypothesis later]

/-- No other file has a bearing on which settings file is found and what it holds. -/
theorem find?_congr
    (formats : other.formats = store.formats)
    (same : ∀ path ∈ places store text, other.entry path = store.entry path) :
    find? other text = find? store text := by
  have here : other.entry (FilePath.ofText text) = store.entry (FilePath.ofText text) := by
    apply same
    unfold places
    dsimp only
    split <;> exact .head _
  have extended :
      (FilePath.namesDirectory text ∨ store.entry (FilePath.ofText text) = .absent) →
      findExtended? other (FilePath.ofText text) store.formats.extensions =
        findExtended? store (FilePath.ofText text) store.formats.extensions := by
    intro missing
    refine findExtended?_congr fun kindOf listed => same _ ?_
    rw [places, if_pos missing]
    exact .tail _ (List.mem_map.mpr ⟨kindOf, listed, rfl⟩)
  unfold find?
  simp only [here, formats]
  split
  · rename_i absent
    have missing :
        FilePath.namesDirectory text ∨ store.entry (FilePath.ofText text) = .absent := by
      by_cases directory : FilePath.namesDirectory text
      · exact .inl directory
      · exact .inr ((if_neg directory).symm.trans absent)
    rw [extended missing]
  · rfl

/-! ## The order of the kinds -/

theorem findExtended?_eq_none
    (missing : ∀ kindOf ∈ tried, store.entry (withExtension path kindOf.2) = .absent) :
    findExtended? store path tried = none := by
  induction tried with
  | nil => rfl
  | cons kindOf tried inductionHypothesis =>
      obtain ⟨here, later⟩ := List.forall_mem_cons.mp missing
      rw [findExtended?, here]
      exact inductionHypothesis later

/-- The only extension that leads to a file counts. -/
theorem findExtended?_of_only
    {found : FileKind × String}
    (listed : found ∈ tried)
    (present : store.entry (withExtension path found.2) ≠ .absent)
    (only : ∀ kindOf ∈ tried, store.entry (withExtension path kindOf.2) ≠ .absent →
      kindOf = found) :
    findExtended? store path tried =
      ofEntry? (withExtension path found.2) found.1
        (store.entry (withExtension path found.2)) := by
  induction tried with
  | nil => cases listed
  | cons kindOf tried inductionHypothesis =>
      obtain ⟨onlyHere, onlyLater⟩ := List.forall_mem_cons.mp only
      by_cases absent : store.entry (withExtension path kindOf.2) = .absent
      · rw [findExtended?, absent]
        refine inductionHypothesis ((List.mem_cons.mp listed).resolve_left ?_) onlyLater
        rintro rfl
        exact present absent
      · obtain rfl := onlyHere absent
        unfold findExtended?
        split
        · rename_i absentHere
          exact absurd absentHere absent
        · rfl

theorem findExtended?_of_perm
    (permuted : reordered.Perm tried)
    (unambiguous : IsUnambiguous store path tried) :
    findExtended? store path reordered = findExtended? store path tried := by
  by_cases missing : ∀ kindOf ∈ tried, store.entry (withExtension path kindOf.2) = .absent
  · rw [findExtended?_eq_none missing,
      findExtended?_eq_none fun kindOf listed => missing kindOf (permuted.mem_iff.mp listed)]
  · obtain ⟨found, missing⟩ := Classical.not_forall.mp missing
    obtain ⟨listed, present⟩ := Classical.not_imp.mp missing
    have only (kindOf : FileKind × String) (among : kindOf ∈ tried)
        (there : store.entry (withExtension path kindOf.2) ≠ .absent) : kindOf = found :=
      unambiguous kindOf among found listed there present
    rw [findExtended?_of_only listed present only,
      findExtended?_of_only (permuted.mem_iff.mpr listed) present
        fun kindOf among => only kindOf (permuted.mem_iff.mp among)]

/-- Where at most one extension leads to a file the order of the kinds does not matter. -/
theorem find?_reordered
    {order : List FileKind}
    (permuted : order.Perm store.formats.order)
    (unambiguous : IsUnambiguous store (FilePath.ofText text) store.formats.extensions) :
    find? { store with formats.order := order } text = find? store text := by
  have extensions : { store.formats with order := order }.extensions.Perm
      store.formats.extensions :=
    permuted.flatMap_right _
  have entries (tried : List (FileKind × String)) :
      findExtended? { store with formats.order := order } (FilePath.ofText text) tried =
        findExtended? store (FilePath.ofText text) tried :=
    findExtended?_congr fun _ _ => rfl
  unfold find?
  simp only [entries, findExtended?_of_perm extensions unambiguous]

end SettingsFile
end Settings
end AgentCohort
