import Eligibility.Proofs.Catalog.Validating
import Eligibility.Proofs.Text.Lowering

/-!
# Numeric hints

A hint is sought in a name after both were put in lower case, each by itself. A hint that stands in
the name is found there unless lower case tells the two apart: a capital sigma at the end of the
hint becomes a final sigma, and the same sigma in the middle of the name does not. The hints that
are honoured in every name (`Honoured`) are therefore those whose capital sigmas are settled inside
the hint (`honoured_iff_isSteady`). All hints without a capital sigma are among them
(`honoured_of_not_mem`).
-/

namespace Eligibility

/-- Whatever the catalog is and whatever other hints there are, every unknown name in which the hint
occurs is registered as the name of a number. -/
def Honoured (hint : String) : Prop :=
  ∀ (σ : Type) (catalog : Catalog σ) (hints names : List String) (s : σ), hint ∈ hints →
    let (found, after) := catalog.findByNames names.eraseDups s
    "" ∉ notFound names found → ∀ name ∈ notFound names found, hint.toList <:+: name.toList →
      ∃ added, (catalog.registerMissing hints names).Ends s (.ok added)
          (catalog.written added after) ∧
        ⟨name, .number, none⟩ ∈ added

section Hints

variable {hints : List String} {hint name : String}

theorem guessed_of_hinted (h : Hinted hints name) :
    Attribute.guessed hints name = ⟨name, .number, none⟩ := by
  rcases DataType.guess_cases hints name with ⟨htype, -⟩ | ⟨-, hnot⟩
  · rw [Attribute.guessed, htype]
  · exact absurd h hnot

theorem guessed_of_not_hinted (h : ¬ Hinted hints name) :
    Attribute.guessed hints name = ⟨name, .string, none⟩ := by
  rcases DataType.guess_cases hints name with ⟨-, hhinted⟩ | ⟨htype, -⟩
  · exact absurd hhinted h
  · rw [Attribute.guessed, htype]

/-- On an empty catalog a name is registered alone, with the type that the hints give it. -/
theorem ends_registerMissing_ofNames (hints : List String) (h : name ≠ "") :
    ((Catalog.scripted .adds).registerMissing hints [name]).Ends (.ofNames [])
      (.ok [.guessed hints name])
      ⟨[.guessed hints name], [[name]], [[.guessed hints name]]⟩ := by
  have hlook : (Catalog.scripted .adds).findByNames [name].eraseDups (.ofNames []) =
      ([], ⟨[], [[name]], []⟩) := rfl
  have hnotFound : notFound [name] [] = [name] := by simp [notFound, List.eraseDups_cons]
  have hends : ((Catalog.scripted .adds).registerMissing hints [name]).Ends (.ofNames []) _ _ :=
    Catalog.ends_registerMissing_of_eq hlook (by rw [hnotFound]; simpa using h.symm)
  rwa [newEntries, hnotFound] at hends

theorem honoured_of_isSteady (h : Text.IsSteady hint.toList) : Honoured hint := by
  intro σ catalog hints names s hhint hnames name hname hoccurs
  have hhinted : Hinted hints name := ⟨hint, hhint, (Text.isSteady_iff hint).mp h name hoccurs⟩
  refine ⟨_, Catalog.ends_registerMissing_of_eq rfl hnames, ?_⟩
  rw [← guessed_of_hinted hhinted]
  exact List.mem_map_of_mem hname

/-- A hint may be in any case and any script, as long as there is no capital sigma in it. -/
theorem honoured_of_not_mem (h : 'Σ' ∉ hint.toList) : Honoured hint :=
  honoured_of_isSteady (Text.isSteady_of_not_mem h)

/-- A hint that is not found in a name in which it stands is not honoured. -/
theorem not_honoured_of_not_hinted (hoccurs : hint.toList <:+: name.toList)
    (h : ¬ Hinted [hint] name) : ¬ Honoured hint := by
  have hname : name ≠ "" := by
    rintro rfl
    have hempty : hint = "" := by simpa using hoccurs
    rw [hempty] at h
    exact h ⟨"", List.mem_singleton_self "", List.infix_rfl⟩
  have hends := ends_registerMissing_ofNames [hint] hname
  rw [guessed_of_not_hinted h] at hends
  intro hhonoured
  obtain ⟨added, hadded, hmem⟩ := hhonoured Script (.scripted .adds) [hint] [name] (.ofNames [])
    (List.mem_singleton_self hint)
    (fun hempty => hname (List.mem_singleton.mp (mem_notFound.mp hempty).1).symm)
    name (mem_notFound.mpr ⟨List.mem_singleton_self name, List.not_mem_nil⟩) hoccurs
  have heq := Except.ok.inj (hadded.result_eq.symm.trans hends.result_eq)
  rw [heq] at hmem
  simp at hmem

end Hints

/-- **The hints that are honoured are those that lower case keeps.** A hint is honoured in every
unknown name and under every catalog if and only if what decides about its capital sigmas stands
inside the hint. -/
theorem honoured_iff_isSteady (hint : String) : Honoured hint ↔ Text.IsSteady hint.toList := by
  refine ⟨fun hhonoured => ?_, honoured_of_isSteady⟩
  rw [Text.isSteady_iff]
  intro name hoccurs
  by_contra hlost
  exact not_honoured_of_not_hinted hoccurs (by simpa [Hinted] using hlost) hhonoured

/-- A capital sigma with a letter behind it is settled. -/
theorem honoured_iff_isSteady_of_inner_sigma : Text.IsSteady "ΣΑ".toList ∧ Honoured "ΣΑ" := by
  have hsteady : Text.IsSteady "ΣΑ".toList := by
    intro front back h
    rcases front with _ | ⟨c, _ | ⟨c', front⟩⟩
    · have hback : back = ['Α'] := by simpa using h.symm
      rw [hback]
      exact .inl (by decide)
    · simp at h
    · simp at h
  exact ⟨hsteady, (honoured_iff_isSteady "ΣΑ").mpr hsteady⟩

/-- One with a letter in front of it and nothing behind it is not. -/
theorem not_honoured_of_final_sigma :
    let reply := (Catalog.scripted .adds).registerMissing ["ΑΣ"] ["ΑΣΑ"] (.ofNames [])
    "ΑΣ".toList <:+: "ΑΣΑ".toList ∧ reply.result = .ok [⟨"ΑΣΑ", .string, none⟩] ∧
      reply.state.inserts = [[⟨"ΑΣΑ", .string, none⟩]] ∧ ¬ Honoured "ΑΣ" := by
  intro reply
  have hoccurs : "ΑΣ".toList <:+: "ΑΣΑ".toList := by decide
  have hnot : ¬ Hinted ["ΑΣ"] "ΑΣΑ" := by
    simp only [Hinted, List.mem_singleton, exists_eq_left, ← DataType.occursIn_iff]
    decide
  have hends := ends_registerMissing_ofNames ["ΑΣ"] (show "ΑΣΑ" ≠ "" by decide)
  rw [guessed_of_not_hinted hnot] at hends
  exact ⟨hoccurs, hends.result_eq, congrArg Script.inserts hends.state_eq,
    not_honoured_of_not_hinted hoccurs hnot⟩

end Eligibility
