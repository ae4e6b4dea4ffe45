import DbConnections.Registry
namespace DbConnections

namespace Requirement

theorem of?_eq_some_iff {d : String} {r : Requirement} :
    of? d = some r ↔ r ∈ table ∧ r.family = familyOf d := by
  constructor
  · intro h
    exact ⟨List.mem_of_find?_eq_some h, by simpa using List.find?_some h⟩
  · rintro ⟨hr, hfamily⟩
    -- the table's families are distinct, so the first entry of the family is `r`
    simp only [table, List.mem_cons, List.not_mem_nil, or_false] at hr
    rcases hr with rfl | rfl | rfl | rfl <;> simp [of?, table, ← hfamily]

end Requirement

namespace Registry

theorem checkDriver_eq_ok_iff {d : String} : checkDriver d = .ok () ↔ Requirement.of? d = none := by
  unfold checkDriver
  cases Requirement.of? d <;> simp

theorem checkDriver_eq_error_iff {d : String} {f : Fault} :
    checkDriver d = .error f ↔ ∃ r, Requirement.of? d = some r ∧ f = .missingDriver r d := by
  unfold checkDriver
  cases Requirement.of? d <;> simp [eq_comm]

end Registry

end DbConnections
