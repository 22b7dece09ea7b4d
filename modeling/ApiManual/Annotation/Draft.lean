import ApiManual.Annotation.Fragment
import ApiManual.Annotation.Tag
import ApiManual.Annotation.Tokens
import ApiManual.Annotation.Warning
import ApiManual.Endpoint

/-!
# Drafts of endpoints

What one block says about an endpoint is gathered in a draft, tag by tag. Each kind of tag has its
rule: how it changes the draft, and which complaints it raises. A tag that uses a fragment changes
nothing; its place in the reading order is the matter of the expansion.
-/

namespace ApiManual

structure DraftParam where
  carrier : Carrier
  name : String
  typeName : Option String
  group : Option String
  default : Option String
  description : Option String
  optional : Bool
deriving DecidableEq, Repr

def DraftParam.toParam (param : DraftParam) : Param :=
  { Param.named param.carrier param.name with
    typeName := param.typeName
    description := param.description
    default := param.default
    required := !param.optional }

/-- Everything one block says about an endpoint. The line is that of its last `@api` tag, or of the
block before one is read. -/
structure Draft where
  method : Option String
  path : String
  title : Option String
  version : Option String
  group : Option String
  description : Option String
  permissions : List String
  params : List DraftParam
  file : String
  line : Nat
deriving DecidableEq, Repr

namespace Draft

def blank (file : String) (line : Nat) : Draft where
  method := none
  path := ""
  title := none
  version := none
  group := none
  description := none
  permissions := []
  params := []
  file
  line

def toEndpoint? (draft : Draft) : Option Endpoint :=
  draft.method.map fun method =>
    { Endpoint.bare draft.path method with
      tags := draft.group.toList
      displayName := draft.title
      description := draft.description
      roles := draft.permissions }.addParams (draft.params.map DraftParam.toParam)

end Draft

/-- A tag that is yet to be read, and the fragments through which it was spliced in, outermost first. -/
structure PendingTag where
  tag : TagLine
  chain : List String
deriving DecidableEq, Repr

namespace PendingTag

open Text

/-- The name of the fragment that a `@apiUse` tag with this text after it asks for. -/
def usedName (rest : List Char) : String :=
  String.ofList ((words rest).headD [])

/-- An `@api` tag without a path ends the reading of its block. -/
def endsBlock (pending : PendingTag) : Bool :=
  match Tag.split? pending.tag.text with
  | some (.api, _) => (ApiTokens.ofLine pending.tag.text).path.isNone
  | _ => false

/-- The names separated by commas; an empty name is a name. -/
def permissions (rest : List Char) : List String :=
  (rest.splitOn ',').map fun name => String.ofList (trim name)

/-- What is wrong with a tag, when `described` says whether the endpoint has a description so far. -/
def complaints (table : FragmentTable) (described : Bool) (pending : PendingTag) : List Complaint :=
  let text := pending.tag.text
  match Tag.split? text with
  | some (.api, _) =>
    let tokens := ApiTokens.ofLine text
    (if tokens.method.isNone then [.missingMethod] else [])
      ++ (if tokens.path.isNone then [.missingPath] else [])
  | some (.description, _) => if described then [.repeatedDescription] else []
  | some (.param _, _) => if (ParamTokens.ofLine text).name.isNone then [.missingParamName] else []
  | some (.use, rest) =>
    let name := usedName rest
    if !table.contains name then [.unknownFragment name]
    else if pending.chain.contains name then [.fragmentUsesItself name]
    else []
  | _ => []

def apply (pending : PendingTag) (draft : Draft) : Draft :=
  let text := pending.tag.text
  match Tag.split? text with
  | some (.api, _) =>
    let tokens := ApiTokens.ofLine text
    match tokens.path with
    | some path =>
      { draft with method := tokens.method, path, title := tokens.title, line := pending.tag.line }
    | none => { draft with line := pending.tag.line }
  | some (.version, rest) => { draft with version := present? rest }
  | some (.group, rest) => { draft with group := present? rest }
  | some (.permission, rest) =>
    { draft with permissions := draft.permissions ++ permissions rest }
  | some (.description, rest) => { draft with description := present? rest }
  | some (.param carrier, _) =>
    let tokens := ParamTokens.ofLine text
    match tokens.name with
    | some name =>
      { draft with
        params := draft.params ++ [{
          carrier, name
          typeName := tokens.typeName
          group := tokens.group
          default := tokens.default
          description := tokens.description
          optional := tokens.optional }] }
    | none => draft
  | some (.use, _) => draft
  | none => draft

/-- The tags of the fragment that a tag uses, if it uses one that is not in its chain. They are
reported at the line of the tag that uses them. -/
def splice (table : FragmentTable) (pending : PendingTag) : List PendingTag :=
  match Tag.split? pending.tag.text with
  | some (.use, rest) =>
    let name := usedName rest
    match table.find? name with
    | some fragment =>
      if pending.chain.contains name then []
      else
        (TagLine.ofText (fun _ => pending.tag.line) fragment.content).map
          fun tag => ⟨tag, pending.chain ++ [name]⟩
    | none => []
  | _ => []

end PendingTag

end ApiManual
