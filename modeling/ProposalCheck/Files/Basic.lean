import ProposalCheck.Reference.Reader
import ProposalCheck.Text.Decoding

/-!
# Files and directories

`Files` says what is at a path: a file with its bytes, a directory with the names in it, or nothing
that can be looked at. `Files.reader` reads documents from files; every way to end a line is read as
a line feed.
-/

namespace ProposalCheck

/-- What is at a path. -/
inductive Entry where
  | file (bytes : List UInt8)
  | directory (names : List String)
deriving DecidableEq, Repr, Inhabited

/-- Why nothing can be had at a path. -/
inductive FileError where
  | missing
  /-- A part of the path in front of its end is a file. -/
  | notDirectory
  /-- There is a directory where a file is wanted. -/
  | isDirectory
  | nameTooLong
  | denied
  /-- The path has a character that no name can have. -/
  | impossibleName
deriving DecidableEq, Repr, Inhabited

namespace FileError

/-- The number and the words for the error. -/
def reason : FileError → Nat × String
  | missing => (2, "No such file or directory")
  | notDirectory => (20, "Not a directory")
  | isDirectory => (21, "Is a directory")
  | nameTooLong => (36, "File name too long")
  | denied => (13, "Permission denied")
  | impossibleName => (22, "Invalid argument")

/-- The wording of the error for a path. -/
def message (e : FileError) (p : Path) : String :=
  match e with
  | impossibleName => ReadError.impossiblePath.message
  | e => "[Errno " ++ toString e.reason.1 ++ "] " ++ e.reason.2 ++ ": " ++ Text.quoted p.text

end FileError

/-- A path starts with a home directory, and nobody knows where that is. -/
structure HomeError where
deriving DecidableEq, Repr, Inhabited

/-- The wording of the error. -/
def HomeError.message (_ : HomeError) : String :=
  "Could not determine home directory."

/-- The path with the home directory that its first name stands for. -/
def Path.expandHome (home : String → Option Path) (p : Path) : Except HomeError Path :=
  match p.root, p.names with
  | .relative, n :: ns =>
    if n.startsWith "~" then
      match home n with
      | some h => .ok { h with names := h.names ++ ns }
      | none => .error {}
    else .ok p
  | _, _ => .ok p

/-- What is at each path. -/
abbrev Files := Path → Except FileError Entry

namespace Files

/-- The bytes of the file at a path. -/
def read (fs : Files) (p : Path) : Except FileError (List UInt8) := do
  match ← fs p with
  | .file bytes => return bytes
  | .directory _ => throw .isDirectory

/-- A text in which every way to end a line is a line feed. -/
def unifyBreaks : List Char → List Char
  | [] => []
  | '\r' :: '\n' :: r => '\n' :: unifyBreaks r
  | c :: r => (if c == '\r' then '\n' else c) :: unifyBreaks r

/-- The text that the bytes of a file are. -/
def decode (bytes : List UInt8) : Except Text.DecodingError String :=
  (fun s => String.ofList (unifyBreaks s.toList)) <$> Text.Decoding.decode bytes

/-- The text of the file at a path as a document. -/
def readDocument (fs : Files) (p : Path) : Except ReadError String :=
  match fs.read p with
  | .error .impossibleName => .error .impossiblePath
  | .error e => .error (.unreadable (e.message p))
  | .ok bytes => (decode bytes).mapError fun e =>
    .unreadable ("stream did not contain valid UTF-8: " ++ e.message)

/-- The reader of documents in files. -/
def reader (fs : Files) : Reader := fs.readDocument

/-- Whether there is anything at a path that passes a test. It is an error if that
cannot be told. -/
def has (fs : Files) (test : Entry → Bool) (p : Path) : Except FileError Bool :=
  match fs p with
  | .ok e => .ok (test e)
  | .error .missing => .ok false
  | .error .notDirectory => .ok false
  | .error .impossibleName => .ok false
  | .error e => .error e

/-- Whether there is anything at a path. -/
def holds (fs : Files) (p : Path) : Except FileError Bool :=
  fs.has (fun _ => true) p

/-- Whether an entry is a directory. -/
def isDirectory : Entry → Bool
  | .directory _ => true
  | .file _ => false

/-- How the names of documents end. -/
def documentEnd : String := ".md"

/-- The documents in the directory at a path, in the order of their names. -/
def documentsIn (fs : Files) (p : Path) : List Path :=
  match fs p with
  | .ok (.directory names) =>
    (Text.sorted (names.filter (·.endsWith documentEnd))).map fun n => { p with names := p.names ++ [n] }
  | _ => []

/-- The paths of sources, where a directory stands for the documents in it. -/
def expand (fs : Files) : List Path → Except (FileError × Path) (List Path)
  | [] => .ok []
  | p :: ps => do
    let found ←
      if ← (fs.has isDirectory p).mapError (·, p) then pure (fs.documentsIn p) else pure [p]
    return found ++ (← expand fs ps)

end Files

end ProposalCheck
