import BoolCalc.Csv
import BoolCalc.GateTable
import BoolCalc.Session.Document
import BoolCalc.Store

/-!
# The contents of files

What settings, sessions, histories and the gate table are as bytes. Documents are UTF-8 text; a
file that is no such text is refused before it is read as a document.
-/

namespace BoolCalc

/-- The bytes of a text. -/
def encodeText (cs : List Char) : ByteArray := (String.ofList cs).toUTF8

theorem encodeText_eq (cs : List Char) : encodeText cs = cs.utf8Encode := by
  rw [encodeText, String.toUTF8_eq_toByteArray, String.toByteArray_ofList]

/-- The text that bytes encode. -/
def decodeText (bytes : ByteArray) : Except FileError (List Char) :=
  match String.fromUTF8? bytes with
  | some s => .ok s.toList
  | none => .error .notText

/-- Why settings or a session cannot be loaded. -/
inductive LoadError where
  | file (reason : FileError)
  /-- The document is faulty; `document` is its text. -/
  | format (fault : Json.Fault) (document : List Char)
deriving DecidableEq, Repr

/-- The wording of a refusal to load. -/
def LoadError.message : LoadError → String
  | .file e => e.message
  | .format f cs => "Invalid file format - " ++ f.message cs

/-- What a reader of documents makes of bytes. -/
def decodeDocument {α : Type} (reader : List Char → Except Json.Fault α) (bytes : ByteArray) :
    Except LoadError α :=
  match decodeText bytes with
  | .error e => .error (.file e)
  | .ok cs =>
    match reader cs with
    | .error f => .error (.format f cs)
    | .ok a => .ok a

namespace Settings

/-- The content of a file of settings. -/
def encode (s : Settings) : ByteArray := encodeText s.document

/-- The settings in the content of a file. -/
def decode (bytes : ByteArray) : Except LoadError Settings := decodeDocument ofDocument bytes

/-- The settings in a file; standard settings if there is none. -/
def load (st : Store) (name : String) : Except LoadError Settings :=
  if st.hasName name then
    match st.read name with
    | .error e => .error (.file e)
    | .ok bytes => decode bytes
  else .ok standard

end Settings

namespace Session

/-- The content of a file of a session. -/
def encode (s : Session) : ByteArray := encodeText s.document

/-- The session in the content of a file. -/
def decode (bytes : ByteArray) : Except LoadError Session := decodeDocument ofDocument bytes

/-- The session in what was read from a file. -/
def ofReply : Except FileError ByteArray → Except LoadError Session
  | .error e => .error (.file e)
  | .ok bytes => decode bytes

/-- The session in a file. -/
def load (st : Store) (name : String) : Except LoadError Session := ofReply (st.read name)

end Session

/-- Why a history or a table cannot be exported. -/
inductive ExportError where
  /-- The history is empty. -/
  | nothing
  | file (reason : FileError)
deriving DecidableEq, Repr

/-- The wording of a refusal to export. -/
def ExportError.message : ExportError → String
  | .nothing => "nothing to export"
  | .file e => e.message

namespace Csv

/-- The record of an entry: expression, reverse Polish form, and value in its own symbols. -/
def entryRecord (e : HistoryEntry) : Record :=
  [e.expression.toList, e.rpn.toList, [e.symbol]]

/-- The records of a history, under a heading. -/
def historyRecords (h : List HistoryEntry) : List Record :=
  ["expression".toList, "postfix".toList, "result".toList] :: h.map entryRecord

/-- The content of an exported history; an empty one is not exported. -/
def encodeHistory (h : List HistoryEntry) : Except ExportError ByteArray :=
  if h.isEmpty then .error .nothing else .ok (encodeText (document (historyRecords h)))

/-- The records of the gate table, under its headings. -/
def gateRecords (s : Symbols) : List Record :=
  GateTable.headers.map String.toList :: (GateTable.spelled s).map fun r => r.map ([·])

/-- The content of an exported gate table. -/
def encodeGates (s : Symbols) : ByteArray := encodeText (document (gateRecords s))

end Csv

end BoolCalc
