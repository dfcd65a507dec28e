import KubeNova.Common.Exceptions
import KubeNova.Foundation.JsValue

/-!
# Manifests in a YAML text

`splitYamlDocuments` and `parseYamlManifests` of the resources service.  What a single document
says is up to the YAML library.
-/

namespace KubeNova.Resources

open KubeNova.Foundation KubeNova.Common

abbrev Line := List Char

def dropCarriageReturn (line : Line) : Line :=
  if line.getLast? = some '\r' then line.dropLast else line

def dropCarriageReturns : List Line → List Line
  | [] => []
  | [line] => [line]
  | line :: next :: lines => dropCarriageReturn line :: dropCarriageReturns (next :: lines)

def splitLines (text : List Char) : List Line := dropCarriageReturns (text.splitOn '\n')

/-- What `.` does not match. -/
def isLineTerminator (c : Char) : Bool :=
  c == '\n' || c == '\r' || c.toNat == 0x2028 || c.toNat == 0x2029

/-- `(?:#.*)?$` -/
def isCommentOrEnd : List Char → Bool
  | [] => true
  | '#' :: comment => comment.all fun c => !isLineTerminator c
  | _ => false

/-- `^\s*`, the marker, and `\s*(?:#.*)?$`. -/
def isMarked (marker : List Char) (line : Line) : Bool :=
  let rest := line.dropWhile Text.isSpace
  marker.isPrefixOf rest && isCommentOrEnd ((rest.drop marker.length).dropWhile Text.isSpace)

def joinLines (lines : List Line) : List Char := ['\n'].intercalate lines

def pushDocument (docs : List String) (current : List Line) : List String :=
  let doc := String.ofList (Text.trimChars (joinLines current))
  if doc ≠ "" then docs ++ [doc] else docs

/-- What `splitYamlDocuments` does with a line: the documents so far, and the lines of the next. -/
def splitStep (state : List String × List Line) (line : Line) : List String × List Line :=
  if isMarked "---".toList line then (pushDocument state.1 state.2, [])
  else if isMarked "...".toList line then (pushDocument state.1 state.2, [])
  else (state.1, state.2 ++ [line])

def splitFrom (docs : List String) (current : List Line) (lines : List Line) : List String :=
  let state := lines.foldl splitStep (docs, current)
  pushDocument state.1 state.2

def splitYamlDocuments (yaml : String) : List String := splitFrom [] [] (splitLines yaml.toList)

section Parsing

-- What the YAML library makes of one document, or the message it fails with.
variable (loadYaml : String → Except String Js)

/-- `item` of a list has to be an object. -/
def listItem (index itemIndex : Nat) : Js → Except Exception Js
  | .object fields => .ok (.object fields)
  | _ => .error (.badRequest ("YAML 第 " ++ toString (index + 1) ++ " 段 List.items[" ++
      toString itemIndex ++ "] 内容无效"))

def documentManifests (index : Nat) (parsed : Js) : Except Exception (List Js) :=
  if parsed.truthy then
    match parsed with
    | .object fields =>
        match (Js.object fields).field "kind", (Js.object fields).field "items" with
        | .string "List", .array items =>
            items.zipIdx.mapM fun item => listItem index item.2 item.1
        | _, _ => .ok [.object fields]
    | _ => .error (.badRequest ("YAML 第 " ++ toString (index + 1) ++ " 段内容无效"))
  else .ok []

def loadDocument (index : Nat) (doc : String) : Except Exception (List Js) :=
  match loadYaml doc with
  | .error message =>
      .error (.badRequest ("YAML 第 " ++ toString (index + 1) ++ " 段解析失败：" ++ message))
  | .ok parsed => documentManifests index parsed

def parseYamlManifests (yaml : String) : Except Exception (List Js) := do
  let manifests ← (splitYamlDocuments yaml).zipIdx.mapM fun doc => loadDocument loadYaml doc.2 doc.1
  return manifests.flatten

end Parsing

end KubeNova.Resources
