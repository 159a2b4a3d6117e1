import CourtroomGateway.Config.Sections
import CourtroomGateway.Config.Yaml.Document

/-! Loading a configuration from text: the text is read as a YAML document, the document as a
configuration, and the configuration is checked. -/

namespace CourtroomGateway.Config

def ofYaml (text : String) : Except ConfigFault Config :=
  match Yaml.document? text with
  | none => .error .malformed
  | some document =>
    match ofDocument false document with
    | .error _ => .error .malformed
    | .ok c => c.validate

theorem fault?_of_ofYaml {text : String} {c : Config} (h : ofYaml text = .ok c) :
    c.fault? = none := by
  unfold ofYaml at h
  split at h
  · cases h
  · split at h
    · cases h
    · obtain ⟨clean, rfl⟩ := validate_eq_ok_iff.1 h
      exact clean

end CourtroomGateway.Config
