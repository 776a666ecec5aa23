import StagedTables.Settings.Reader
import StagedTables.Settings.Source
import StagedTables.Yaml

/-! # The usual libraries

The libraries that programs which are run load their settings with. -/
set_option autoImplicit false
namespace StagedTables.Settings

def Libraries.usual : Libraries Scalar where
  loadYaml text := (Yaml.read text).mapError Yaml.Fault.error
  validate rule fields :=
    (Settings.read rule (fields.map fun (name, datum) => (.text name, datum))).answer

end StagedTables.Settings
