import Keepalive.Config.Settings
import Keepalive.Journal

/-!
# Sections of a document

A document may hold several profiles under `profile`, or one set of settings under `drcom`, or settings at its root. The first
of these that is there is the one that counts (`Config.select`); a profile asked for where there are none is ignored, with
a warning.
-/

namespace Keepalive.Config

variable [Depths]

/-- Does a text occur in another? -/
def occurs (part : List Char) : List Char → Bool
  | [] => part.isEmpty
  | c :: r => part.isPrefixOf (c :: r) || occurs part r

/-- Is a value this text? -/
def isText (text : String) : Value → Bool
  | .text t => t == text
  | _ => false

/-- Is a name in a value: an entry of a table, a part of a text, or an item of a list? Nothing is in any other value. -/
def holds (name : String) : Value → Except LoadFault Bool
  | .table entries => .ok (Entries.get? entries name).isSome
  | .text text => .ok (occurs name.toList text.toList)
  | .list items => .ok (items.any (isText name))
  | _ => .error .notATable

/-- The configuration of a value: of a table its settings, and of anything else none. -/
def ofValue (value : Value) : Except LoadFault Config :=
  match value with
  | .table entries => ofEntries entries
  | value =>
    match holds "host_ip" value with
    | .ok true => .error .notATable
    | .ok false => .error (.rejected (.missingField "host_ip"))
    | .error fault => .error fault

/-- The settings that count in a document, and whether the profile asked for was ignored. -/
structure Selection where
  settings : Value
  ignored : Bool

/-- The profile asked for when none is named. -/
def defaultProfile : String := "default"

/-- The profile of a name. -/
def profileOf (profiles : Value) (profile : String) : Except LoadFault Value :=
  match holds profile profiles with
  | .error fault => .error fault
  | .ok false => .error (.rejected (.noProfile profile))
  | .ok true =>
    match profiles with
    | .table entries =>
      match Entries.get? entries profile with
      | some settings => .ok settings
      | none => .error (.rejected (.noProfile profile))
    | _ => .error .notATable

/-- The settings that count in a document for a profile. -/
def select (document : Entries) (profile : String) : Except LoadFault Selection :=
  match document.get? "profile" with
  | some profiles => (profileOf profiles profile).map (⟨·, false⟩)
  | none =>
    match document.get? "drcom" with
    | some settings => .ok ⟨settings, profile != defaultProfile⟩
    | none => .ok ⟨.table document, false⟩

/-- The warning that a profile was ignored. -/
def ignoredWarning (profile : String) : String := "配置仅包含 [drcom] 节，忽略 profile='" ++ profile ++ "'。"

/-- Loads the configuration of a value. -/
def load (value : Value) : Logged LoadFault Config := do
  let config ← Logged.ofExcept (ofValue value)
  Logged.log .debug ("配置加载完成: " ++ config.describe)
  pure config

/-- Loads the configuration of a document for a profile. -/
def loadDocument (document : Entries) (profile : String) : Logged LoadFault Config := do
  let selection ← Logged.ofExcept (select document profile)
  if selection.ignored then Logged.log .warning (ignoredWarning profile)
  load selection.settings

end Keepalive.Config
