/-!
# Warnings

What can be wrong with an annotation. A warning never stops a build: it names the file and the line of
the tag at fault, and what the fault is.
-/

namespace ApiManual

inductive Complaint where
  | missingMethod
  | missingPath
  | missingParamName
  | unknownFragment (name : String)
  | fragmentUsesItself (name : String)
  | repeatedDescription
deriving DecidableEq, Repr

inductive WarningKind where
  | missedParameter
  | invalidDefinition
  | duplicateApiName
deriving DecidableEq, Repr

def WarningKind.name : WarningKind → String
  | .missedParameter => "missed-parameter"
  | .invalidDefinition => "invalid-definition"
  | .duplicateApiName => "duplicate-api-name"

namespace Complaint

def kind : Complaint → WarningKind
  | .missingMethod => .missedParameter
  | .missingPath => .missedParameter
  | .missingParamName => .missedParameter
  | .unknownFragment _ => .invalidDefinition
  | .fragmentUsesItself _ => .invalidDefinition
  | .repeatedDescription => .duplicateApiName

def message : Complaint → String
  | .missingMethod => "Missed method name in @api"
  | .missingPath => "Missed path name in @api"
  | .missingParamName => "Missed parameter name"
  | .unknownFragment name => "There is no such apiDefine `" ++ name ++ "`"
  | .fragmentUsesItself name => "apiDefine `" ++ name ++ "` uses itself"
  | .repeatedDescription => "Duplicate @apiDescription, the last one is used"

end Complaint

/-- A fault and where it is, the line counted from one. -/
structure Warning where
  complaint : Complaint
  file : String
  line : Nat
deriving DecidableEq, Repr

namespace Warning

/-- File, line, sort and message on one line. -/
def describe (warning : Warning) : String :=
  warning.file ++ ":" ++ toString warning.line ++ ": [" ++ warning.complaint.kind.name ++ "] " ++
    warning.complaint.message

end Warning

end ApiManual
