import Stagecraft.Markup.Printer
import Stagecraft.Text.Quoted

/-!
# Faults

Everything that can go wrong while content is read, built or run. A defect is what a document can
do wrong; it is reported with the element it was found at. The wording of every report is in
`Defect.text` and `Fault.message?`.
-/

namespace Stagecraft

open Markup

/-- What is wrong with a definition. -/
inductive Defect where
  | notANumber (field value : String)
  | notAnInteger (field value : String)
  | rectangleSize
  | geometryKind (kind : String)
  | geometrySize
  | audioSource
  | textureUrl
  | sheetSize (animation : Option String)
  | frameSizeNotPositive (animation : Option String)
  | frameSizeMissing (animation : Option String)
  | actionNeeds (kind : Option String) (field : String)
  | actionKind (kind : Option String)
  | eventName
  | sequenceId
  | indexList (text : String)
  | indexRange (text : String)
  | faceAnimation
  | animationUndefined (id : String)
  | cameraWindow
  | routerSource
  | routerShape
  | routerArguments
  | routerContains (construct : String)
  | routerUnregistered (name : String)
  | textureUndefined (id : String)
  | defaultTextureUndefined
  | traitName
  | traitUndefined (name : String)
  | traitRepeated (name : String) (object : Option String)
  | surfaces (unknown : List String)
  | spawnItem
  | itemId (tag : String)
  | entityUnregistered (source : Option String)
  | textFont
  | collisionRadius
  | collisionKind (tag : String)
  | audioId
  | gotoTarget
  | globalEvent (moment : String) (kind : Option String)
  | behaviorKind (kind : String)
  | objectUndefined (id : Option String)
  | sceneMissing (url : String)
  | sceneUndefined (name : String)
  | unregistered (kind name : String)
  | resourceMissing (kind name : String)
  | stated (text : String)

/-- An absent text as messages show it. -/
def shown (text : Option String) : String := text.getD "None"

namespace Defect

/-- The first line of the report. -/
def text : Defect → String
  | notANumber field value =>
    "Attribute \"" ++ field ++ "\" is not a number: " ++ Text.quoted value
  | notAnInteger field value =>
    "Attribute \"" ++ field ++ "\" is not an integer: " ++ Text.quoted value
  | rectangleSize => "Rectangle needs both w and h"
  | geometryKind kind => "No geometry type \"" ++ kind ++ "\""
  | geometrySize => "Geometry needs both w and h"
  | audioSource => "Audio element needs a src attribute"
  | textureUrl => "Texture element needs a url attribute"
  | sheetSize animation =>
    "Animation \"" ++ shown animation ++ "\" needs a texture with a known size"
  | frameSizeNotPositive animation =>
    "Frame size must be positive in animation \"" ++ shown animation ++ "\""
  | frameSizeMissing animation =>
    "Frame size not defined in animation \"" ++ shown animation ++ "\""
  | actionNeeds kind field =>
    "Action \"" ++ shown kind ++ "\" needs a " ++ field ++ " attribute"
  | actionKind kind => "No action type \"" ++ shown kind ++ "\""
  | eventName => "Event needs a name attribute"
  | sequenceId => "Sequence needs an id attribute"
  | indexList text => "Invalid face index list " ++ Text.quoted text
  | indexRange text => "Invalid face range " ++ Text.quoted text
  | faceAnimation => "Face needs an animation attribute"
  | animationUndefined id => "Animation \"" ++ id ++ "\" not defined."
  | cameraWindow => "Camera path needs a window"
  | routerSource => "Invalid animation router: <syntax>"
  | routerShape => "Animation router must be a lambda expression"
  | routerArguments => "Inline animation router takes no arguments"
  | routerContains construct => "Animation router may not contain " ++ construct
  | routerUnregistered name => "Animation router \"" ++ name ++ "\" not registered."
  | textureUndefined id => "Texture \"" ++ id ++ "\" not defined."
  | defaultTextureUndefined => "Default texture not defined"
  | traitName => "Trait needs a name attribute"
  | traitUndefined name => "Trait \"" ++ name ++ "\" not defined."
  | traitRepeated name object =>
    "Trait \"" ++ name ++ "\" already applied to object \"" ++ shown object ++ "\""
  | surfaces unknown => "Unknown solid surface " ++ String.intercalate ", " unknown
  | spawnItem => "Spawn item needs event and object attributes"
  | itemId tag => "<" ++ tag ++ "> needs an id attribute"
  | entityUnregistered source => "Entity \"" ++ shown source ++ "\" not registered."
  | textFont => "Text needs a font attribute"
  | collisionRadius => "Collision circle needs an r attribute"
  | collisionKind tag => "No collision type \"" ++ tag ++ "\""
  | audioId => "Audio element needs an id attribute"
  | gotoTarget => "goto-scene action needs an id attribute"
  | globalEvent moment kind => "No matching event for " ++ moment ++ " > " ++ shown kind
  | behaviorKind kind => "Behavior \"" ++ kind ++ "\" not in behavior map"
  | objectUndefined id => "Object \"" ++ shown id ++ "\" not defined."
  | sceneMissing url => "No <scene> in " ++ url
  | sceneUndefined name => "Scene \"" ++ name ++ "\" not defined."
  | unregistered kind name => kind ++ " \"" ++ name ++ "\" not registered."
  | resourceMissing kind name => "No resource \"" ++ name ++ "\" of type " ++ kind
  | stated text => text

end Defect

/-- Why a load failed. -/
inductive LoadFailure where
  | notFound
  | isDirectory
  | notDirectory
  | notAnImage
  | notWellFormed
  | status (code : Nat) (url : String)
  | redirected (url target : String)
  | connection (text : String)
  | tooManyRedirects
  deriving Repr

namespace LoadFailure

/-- The phrase for a status code. -/
def phrase : Nat → String
  | 300 => "Multiple Choices"
  | 301 => "Moved Permanently"
  | 302 => "Found"
  | 303 => "See Other"
  | 304 => "Not Modified"
  | 305 => "Use Proxy"
  | 307 => "Temporary Redirect"
  | 308 => "Permanent Redirect"
  | 400 => "Bad Request"
  | 401 => "Unauthorized"
  | 402 => "Payment Required"
  | 403 => "Forbidden"
  | 404 => "Not Found"
  | 405 => "Method Not Allowed"
  | 406 => "Not Acceptable"
  | 407 => "Proxy Authentication Required"
  | 408 => "Request Timeout"
  | 409 => "Conflict"
  | 410 => "Gone"
  | 411 => "Length Required"
  | 412 => "Precondition Failed"
  | 413 => "Request Entity Too Large"
  | 414 => "Request-URI Too Long"
  | 415 => "Unsupported Media Type"
  | 416 => "Requested Range Not Satisfiable"
  | 417 => "Expectation Failed"
  | 418 => "I'm a teapot"
  | 421 => "Misdirected Request"
  | 422 => "Unprocessable Entity"
  | 423 => "Locked"
  | 424 => "Failed Dependency"
  | 425 => "Too Early"
  | 426 => "Upgrade Required"
  | 428 => "Precondition Required"
  | 429 => "Too Many Requests"
  | 431 => "Request Header Fields Too Large"
  | 451 => "Unavailable For Legal Reasons"
  | 500 => "Internal Server Error"
  | 501 => "Not Implemented"
  | 502 => "Bad Gateway"
  | 503 => "Service Unavailable"
  | 504 => "Gateway Timeout"
  | 505 => "HTTP Version Not Supported"
  | 506 => "Variant Also Negotiates"
  | 507 => "Insufficient Storage"
  | 508 => "Loop Detected"
  | 510 => "Not Extended"
  | 511 => "Network Authentication Required"
  | 100 => "Continue"
  | 101 => "Switching Protocols"
  | 102 => "Processing"
  | 103 => "Early Hints"
  | _ => ""

/-- The class of a status code that is no success. -/
def statusClass (code : Nat) : String :=
  if code / 100 = 1 then "Informational response"
  else if code / 100 = 3 then "Redirect response"
  else if code / 100 = 4 then "Client error"
  else if code / 100 = 5 then "Server error"
  else "Invalid status code"

/-- The line that names a status. -/
def statusLine (code : Nat) (url : String) : String :=
  statusClass code ++ " '" ++ toString code ++ " " ++ phrase code ++ "' for url '" ++ url ++ "'"

/-- The line that points to the meaning of a status. -/
def statusHelp (code : Nat) : String :=
  "For more information check: https://developer.mozilla.org/en-US/docs/Web/HTTP/Status/" ++
    toString code

def text : LoadFailure → String
  | notFound => "No such file or directory"
  | isDirectory => "Is a directory"
  | notDirectory => "Not a directory"
  | notAnImage => "not a decodable image"
  | notWellFormed => "<xml>"
  | status code url => statusLine code url ++ "\n" ++ statusHelp code
  | redirected url target =>
    statusLine 302 url ++ "\nRedirect location: '" ++ target ++ "'\n" ++ statusHelp 302
  | connection text => if text.isEmpty then "ConnectError" else text
  | tooManyRedirects => "Exceeded maximum allowed redirects."

end LoadFailure

/-- What goes wrong. Code that is not ours, of the host application or of whoever answers requests,
reads documents or decodes pictures, may fail in ways that only it knows; these go by their kind. -/
inductive Fault where
  | definition (defect : Defect) (place : Option Element)
  | duplicateId (id : String) (place : Element)
  | load (url : String) (reason : LoadFailure)
  | sequenceUnregistered (id : String)
  | textureKey (id : String)
  | wrongElement (rendered : String) (allowed : List String)
  | notAnElement (rendered : String)
  | needsLoader (component : String)
  | traitTaken (trait : String) (host : Option String)
  | indexRange
  | divisionByZero
  | typeMismatch
  | badValue
  | overflow
  | missingOperation
  | invalidModel
  | invalidSettings
  | settingText
  | configText
  | configEncoding
  | routerCode
  | endlessRecursion
  | foreign (kind : String)

/-- A report with the place it is about. -/
def reportAt (text : String) (place : Option Element) : String :=
  match place with
  | none => text
  | some e =>
    text ++ "\n" ++ (if e.line = 0 then "" else "Location: line " ++ toString e.line ++ "\n") ++
      "Element: " ++ e.describe

namespace Fault

def defect (d : Defect) (place : Element) : Fault :=
  .definition d (some place)

/-- The report of a fault, for those whose words are ours. -/
def message? : Fault → Option String
  | definition defect place => some (reportAt defect.text place)
  | duplicateId id place => some (reportAt ("Object id \"" ++ id ++ "\" already defined") place)
  | load url reason => some ("Failed to load " ++ url ++ ": " ++ reason.text)
  | sequenceUnregistered id => some ("Sequence \"" ++ id ++ "\" not registered")
  | textureKey id => some id
  | wrongElement rendered allowed =>
    some (rendered ++ " must match selector \"" ++ String.intercalate ", " allowed ++ "\"")
  | notAnElement rendered => some (rendered ++ " is not an XML node")
  | needsLoader component => some (component ++ " needs a loader to resolve resources")
  | traitTaken trait host =>
    match host with
    | some name =>
      if name.isEmpty then none
      else some ("Trait \"" ++ trait ++ "\" already applied to " ++ Text.quoted name)
    | none => none
  | _ => none

/-- The report of a fault inside another message, where missing keys are quoted. -/
def report (f : Fault) : String :=
  let text := f.message?.getD ""
  match f with
  | sequenceUnregistered _ => Text.quoted text
  | textureKey _ => Text.quoted text
  | _ => text

/-- Faults of documents and of what they refer to, as opposed to those of running code. -/
def isReported : Fault → Bool
  | definition _ _ => true
  | duplicateId _ _ => true
  | load _ _ => true
  | _ => false

end Fault

end Stagecraft
