import DbConnections.Binary64
import DbConnections.Binary64.Shortest
import DbConnections.Binary64.Notation
import DbConnections.Text.Utf8
import DbConnections.Text.Lower
import DbConnections.Text.DecimalDigit
import DbConnections.Text.Blank
import DbConnections.Text.IntegerLiteral
import DbConnections.Value
import DbConnections.Value.Text
import DbConnections.Config
import DbConnections.Config.Issue
import DbConnections.Config.Coerce
import DbConnections.Config.Check
import DbConnections.Config.Field
import DbConnections.Validator
import DbConnections.Validator.Installed
import DbConnections.Url
import DbConnections.Toolkit
import DbConnections.Toolkit.Catalog
import DbConnections.Toolkit.Loader
import DbConnections.Toolkit.Render
import DbConnections.Toolkit.Installed
import DbConnections.Requirement
import DbConnections.Fault
import DbConnections.Registry
import DbConnections.Registry.Close
import DbConnections.Registry.Step
import DbConnections.Proofs.Close
import DbConnections.Proofs.Checked
import DbConnections.Proofs.Requirement
import DbConnections.Proofs.Add
import DbConnections.Proofs.Start
import DbConnections.Proofs.Coherence
import DbConnections.Proofs.Fields
import DbConnections.Proofs.Lookup
import DbConnections.Proofs.Identity
import DbConnections.Proofs.Family
import DbConnections.Proofs.Utf8
import DbConnections.Proofs.IntegerLiteral
import DbConnections.Proofs.Coercion
import DbConnections.Proofs.Recheck
