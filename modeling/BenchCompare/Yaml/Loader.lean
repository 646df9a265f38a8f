import BenchCompare.Settings.Loader
import BenchCompare.Yaml.Document

/-!
# A loader of YAML texts

  The loader that the program runs with.  It reads what configuration files are
  made of, and no tags, anchors, aliases or directives.
-/

namespace BenchCompare.Yaml

/-- What becomes of a text that stands for no value.  Numbers out of range are no bad values. -/
def Fault.outcome : Fault → YamlFault
  | malformed cause => .malformed cause.message
  | hugePlace => .thrown ⟨"OverflowError", false, hugePlace.message⟩
  | noCharacter code =>
    if code < 0x80000000 then .thrown ⟨"ValueError", true, (noCharacter code).message⟩
    else .thrown ⟨"OverflowError", false, (noCharacter code).message⟩
  | fault => .thrown ⟨"ValueError", true, fault.message⟩

/-- The value of a text. -/
def load : YamlLoader := fun text => (parse text).mapError Fault.outcome

end BenchCompare.Yaml
