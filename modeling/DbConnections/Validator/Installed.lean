import DbConnections.Proofs.Fields
namespace DbConnections

instance : Validator where
  validate := Config.ofFields
  report := Rejection.report
  validate_of_holdsInfinity h := by rw [Config.ofFields, if_pos h]
  validate_eq_ok_iff hfin := Config.ofFields_eq_ok_iff hfin
  validate_eq_error_iff hfin := Config.ofFields_eq_error_iff hfin

end DbConnections
