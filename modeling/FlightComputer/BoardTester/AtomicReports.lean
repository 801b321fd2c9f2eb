import FlightComputer.BoardTester.JsonDecoding
import FlightComputer.BoardTester.TestReports
import FlightComputer.Library.Excepts

/-!
# Report updates on the disk

The functions of `json_report.py` that update a report, with the content of its file, the
temporary file beside it, and every operation on them. Whether an operation succeeds is given in
advance. What the interpreter adds is a parameter: the spelling of floats, and its limits, that
is, which texts `json.load` and which objects `json.dump` give up with a `RecursionError` or with
the `ValueError` for long integers.

An update leaves the previous content or writes the whole new one, keeps the results that were
recorded earlier, leaves no temporary file behind and raises nothing but `ReportError`, exactly
if it is safe (`report_update_atomic_iff`). A report that is no UTF-8 makes it raise a
`UnicodeDecodeError` (`undecodable_report_escapes`).
-/

set_option autoImplicit false

namespace FlightComputer.BoardTester.OnDisk

open Library Raising

/-! ## Objects -/

/-- What may stand in a report: the values of `json.load`, and objects that `json.dump` cannot
encode, since it does not know them or since they contain themselves. -/
inductive PyObject where
  | none
  | bool (value : Bool)
  | int (value : Int)
  | float (value : PyFloat)
  | str (text : PyStr)
  | list (elements : List PyObject)
  | dict (members : List (PyStr × PyObject))
  | unknown
  | cyclic

mutual

/-- A value of `json.load`. -/
def ofJson : PyJson → PyObject
  | .none => .none
  | .bool value => .bool value
  | .int value => .int value
  | .float value => .float value
  | .str text => .str text
  | .list elements => .list (ofElements elements)
  | .dict members => .dict (ofMembers members)

/-- The elements of a list. -/
def ofElements : List PyJson → List PyObject
  | [] => []
  | element :: elements => ofJson element :: ofElements elements

/-- The members of a dictionary. -/
def ofMembers : List (PyStr × PyJson) → List (PyStr × PyObject)
  | [] => []
  | (key, value) :: members => (key, ofJson value) :: ofMembers members

end

/-- `dict.get` -/
def getMember (members : List (PyStr × PyObject)) (key : PyStr) : Option PyObject :=
  (members.find? fun member => member.1 == key).map Prod.snd

/-- `dict[key] = value` -/
def setMember (members : List (PyStr × PyObject)) (key : PyStr) (value : PyObject) :
    List (PyStr × PyObject) :=
  if members.any fun member => member.1 == key then
    members.map fun member => if member.1 == key then (member.1, value) else member
  else members ++ [(key, value)]

/-- `dict.pop(key, None)` -/
def popMember (members : List (PyStr × PyObject)) (key : PyStr) : List (PyStr × PyObject) :=
  members.filter fun member => !(member.1 == key)

section Members

variable {members : List (PyStr × PyObject)} {key other : PyStr} {value : PyObject}

theorem getMember_cons (member : PyStr × PyObject) :
    getMember (member :: members) key =
      if member.1 == key then some member.2 else getMember members key := by
  rw [getMember, List.find?_cons]
  cases member.1 == key <;> rfl

theorem getMember_map_of_ne (different : other ≠ key) :
    getMember (members.map fun member => if member.1 == key then (member.1, value) else member)
      other = getMember members other := by
  induction members with
  | nil => rfl
  | cons member members ih =>
      rw [List.map_cons, getMember_cons, getMember_cons, ih]
      by_cases same : member.1 = key
      · rw [if_pos (beq_iff_eq.mpr same)]
        have unequal : (member.1 == other) = false :=
          beq_eq_false_iff_ne.mpr fun equal => different (equal.symm.trans same)
        rw [unequal]
        rfl
      · have unequal : (member.1 == key) = false := beq_eq_false_iff_ne.mpr same
        rw [unequal]
        rfl

/-- A member that is set does not change the others. -/
theorem getMember_setMember_of_ne (different : other ≠ key) :
    getMember (setMember members key value) other = getMember members other := by
  rw [setMember]
  split_ifs
  · exact getMember_map_of_ne different
  · rw [getMember, getMember, List.find?_append]
    have unequal : (key == other) = false := beq_eq_false_iff_ne.mpr different.symm
    rw [List.find?_singleton, unequal]
    exact congrArg _ (Option.or_none)

/-- **A member that is set.** -/
theorem getMember_setMember_self : getMember (setMember members key value) key = some value := by
  rw [setMember]
  split_ifs with listed
  · induction members with
    | nil => exact absurd listed Bool.false_ne_true
    | cons member members ih =>
        rw [List.map_cons, getMember_cons]
        by_cases same : member.1 = key
        · rw [if_pos (beq_iff_eq.mpr same), if_pos (beq_iff_eq.mpr same)]
        · have unequal : (member.1 == key) = false := beq_eq_false_iff_ne.mpr same
          rw [List.any_cons, unequal, Bool.false_or] at listed
          rw [unequal, if_neg Bool.false_ne_true, unequal, if_neg Bool.false_ne_true]
          exact ih listed
  · rw [getMember, List.find?_append, List.find?_eq_none.mpr, Option.none_or,
      List.find?_singleton, beq_self_eq_true]
    · rfl
    · intro member among equal
      exact listed (List.any_eq_true.mpr ⟨member, among, equal⟩)

/-- A member that is removed does not change the others. -/
theorem getMember_popMember_of_ne (different : other ≠ key) :
    getMember (popMember members key) other = getMember members other := by
  induction members with
  | nil => rfl
  | cons member members ih =>
      rw [popMember, List.filter_cons, getMember_cons]
      by_cases same : member.1 = key
      · have unequal : (member.1 == other) = false :=
          beq_eq_false_iff_ne.mpr fun equal => different (equal.symm.trans same)
        rw [beq_iff_eq.mpr same, Bool.not_true, if_neg Bool.false_ne_true, unequal]
        exact ih
      · rw [beq_eq_false_iff_ne.mpr same, Bool.not_false, if_pos rfl, getMember_cons]
        exact congrArg _ ih

end Members

/-! ## Exceptions -/

/-- The exceptions at the limits of the interpreter. -/
inductive LimitError where
  | value
  | recursion
  deriving DecidableEq

/-- The causes of a `ReportError`. -/
inductive ReportFault where
  | reservedFields (fields : List PyStr)
  | notAnObject
  | invalidResults
  | notUpdated
  deriving DecidableEq

/-- What an update may raise. -/
inductive UpdateError where
  | os
  | jsonDecode
  | type
  | unicodeDecode
  | limit (error : LimitError)
  | report (fault : ReportFault)
  deriving DecidableEq

/-- What `json.dump` may raise: a `TypeError` or an exception at a limit. -/
inductive EncodingError where
  | type
  | limit (error : LimitError)
  deriving DecidableEq

/-- The exception that is raised. -/
def EncodingError.raised : EncodingError → UpdateError
  | .type => .type
  | .limit error => .limit error

/-- `(OSError, json.JSONDecodeError, TypeError)` -/
def UpdateError.isConverted : UpdateError → Bool
  | .os | .jsonDecode | .type => true
  | _ => false

/-- `ReportError` -/
def UpdateError.isReportError : UpdateError → Bool
  | .report _ => true
  | _ => false

/-! ## `json.load` and `json.dump` -/

/-- What the interpreter adds. A limit of `json.dump` is reached after a number of bytes. -/
structure Interpreter where
  floatText : PyFloat → Bytes
  loadLimit : PyStr → Option LimitError
  dumpLimit : PyObject → Option (Nat × LimitError)

/-- The text that `json.dump` makes of an object, up to the exception that ends it. -/
structure Dumped where
  text : Bytes
  error : Option EncodingError

/-- A text without an exception. -/
def Dumped.plain (text : Bytes) : Dumped := ⟨text, none⟩

/-- One text after the other. -/
def Dumped.followedBy (first second : Dumped) : Dumped :=
  match first.error with
  | some _ => first
  | none => ⟨first.text ++ second.text, second.error⟩

/-- A line feed and the indentation of a level. -/
def newlineIndent (level : Nat) : Bytes := lineFeed :: List.replicate (2 * level) 32

/-- The items of a list or a dictionary, each on a line of its own. -/
def joinItems (level : Nat) : List Dumped → Dumped
  | [] => .plain []
  | [item] => (Dumped.plain (newlineIndent level)).followedBy item
  | item :: items =>
      ((Dumped.plain (newlineIndent level)).followedBy item).followedBy
        ((Dumped.plain [comma]).followedBy (joinItems level items))

/-- The items between their brackets. -/
def bracketed (opening closing : UInt8) (level : Nat) (items : List Dumped) : Dumped :=
  if items.isEmpty then .plain [opening, closing]
  else
    ((Dumped.plain [opening]).followedBy (joinItems (level + 1) items)).followedBy
      (.plain (newlineIndent level ++ [closing]))

/-- A string in its quotes. -/
def quotedText (text : PyStr) : Bytes := quote :: (escapeText text ++ [quote])

/-- The order of strings, by their code points. -/
def precedes : PyStr → PyStr → Bool
  | [], _ => true
  | _ :: _, [] => false
  | first :: rest, second :: rest' =>
      decide (first < second) || (first == second && precedes rest rest')

/-- The members in the order of their keys: `sort_keys=True`. -/
def sortMembers (members : List (PyStr × Dumped)) : List (PyStr × Dumped) :=
  members.mergeSort fun first second => precedes first.1 second.1

mutual

/-- `json.dump(value, file, indent=2, sort_keys=True)`, at a level of indentation. -/
def dumpObject (floatText : PyFloat → Bytes) (level : Nat) : PyObject → Dumped
  | .none => .plain (ascii "null")
  | .bool value => .plain (ascii (if value then "true" else "false"))
  | .int value => .plain (signedDecimalText value)
  | .float value => .plain (floatText value)
  | .str text => .plain (quotedText text)
  | .list elements =>
      bracketed leftBracket rightBracket level (dumpElements floatText (level + 1) elements)
  | .dict members =>
      bracketed leftBrace rightBrace level
        ((sortMembers (dumpMembers floatText (level + 1) members)).map fun member =>
          (Dumped.plain (quotedText member.1 ++ [colon, 32])).followedBy member.2)
  | .unknown => ⟨[], some .type⟩
  | .cyclic => ⟨[], some (.limit .value)⟩

/-- The elements of a list. -/
def dumpElements (floatText : PyFloat → Bytes) (level : Nat) : List PyObject → List Dumped
  | [] => []
  | element :: elements =>
      dumpObject floatText level element :: dumpElements floatText level elements

/-- The members of a dictionary. -/
def dumpMembers (floatText : PyFloat → Bytes) (level : Nat) :
    List (PyStr × PyObject) → List (PyStr × Dumped)
  | [] => []
  | (key, value) :: members =>
      (key, dumpObject floatText level value) :: dumpMembers floatText level members

end

variable (python : Interpreter)

/-- `json.dump(report, report_file, indent=2, sort_keys=True)` -/
def Interpreter.dump (report : PyObject) : Dumped :=
  let dumped := dumpObject python.floatText 0 report
  match python.dumpLimit report with
  | none => dumped
  | some (count, error) => ⟨dumped.text.take count, some (.limit error)⟩

/-- The line ends of a text file as they are read. -/
def universalNewlines : PyStr → PyStr
  | 13 :: 10 :: text => 10 :: universalNewlines text
  | 13 :: text => 10 :: universalNewlines text
  | code :: text => code :: universalNewlines text
  | [] => []

/-- `json.load(report_file)`, of the bytes of a file that is opened as UTF-8. -/
def Interpreter.load (content : Bytes) : Except UpdateError PyObject :=
  match decodeUtf8 content with
  | none => .error .unicodeDecode
  | some text =>
      match python.loadLimit (universalNewlines text) with
      | some error => .error (.limit error)
      | none =>
          match loads (universalNewlines text) with
          | none => .error .jsonDecode
          | some report => .ok (ofJson report)

/-! ## The disk -/

/-- Which operations on the files will succeed: opening and reading the report, creating the
temporary file, flushing, closing, renaming and removing it, and how many bytes can be written, if
not any number. -/
structure DiskAnswers where
  opens : Bool
  reads : Bool
  creates : Bool
  room : Option Nat
  flushes : Bool
  closes : Bool
  renames : Bool
  removes : Bool

/-- The content of the report and of the temporary file, when there are such files. The temporary
file has a name of its own, `uuid4().hex`. -/
structure Disk where
  report : Option Bytes
  temporary : Option Bytes
  answers : DiskAnswers

/-- A call that works on the disk. -/
abbrev DiskCall (α : Type) : Type := Raising UpdateError Disk α

/-- An operation that succeeds, or raises an `OSError`. -/
def fileCall (succeeds : DiskAnswers → Bool) (effect : Disk → Disk) : DiskCall Unit := fun s =>
  if succeeds s.answers then some (.ok (), effect s) else some (.error .os, s)

/-- `temporary_path.open("x", encoding="utf-8")` -/
def createTemporary : DiskCall Unit :=
  fileCall DiskAnswers.creates fun s => { s with temporary := some [] }

/-- Whether so many bytes can be written. -/
def DiskAnswers.takes (answers : DiskAnswers) (count : Nat) : Bool :=
  match answers.room with
  | none => true
  | some room => decide (count ≤ room)

/-- `report_file.write(text)`. A write that fails may have written a part. -/
def writeText (text : Bytes) : DiskCall Unit := fun s =>
  let written := s.temporary.getD [] ++ text
  if s.answers.takes written.length then some (.ok (), { s with temporary := some written })
  else some (.error .os, { s with temporary := some (written.take (s.answers.room.getD 0)) })

/-- `temporary_path.replace(report_path)` -/
def replaceReport : DiskCall Unit :=
  fileCall DiskAnswers.renames fun s => { s with report := s.temporary, temporary := none }

/-- `temporary_path.unlink(missing_ok=True)` -/
def unlinkTemporary : DiskCall Unit :=
  fileCall DiskAnswers.removes fun s => { s with temporary := none }

/-- The result of a call that raises an exception, or none. -/
def endedWith : Option UpdateError → Except UpdateError Unit
  | none => .ok ()
  | some error => .error error

/-- What is written into the temporary file. -/
def writeDumped (dumped : Dumped) : DiskCall Unit := do
  writeText dumped.text
  settle (endedWith (dumped.error.map EncodingError.raised))
  writeText [lineFeed]
  fileCall DiskAnswers.flushes id

/-- The `try` of `_write_report`, with the `with` statement in it. -/
def replacing (dumped : Dumped) : DiskCall Unit := do
  createTemporary
  ensuring (writeDumped dumped) (fileCall DiskAnswers.closes id)
  replaceReport

/-- `_write_report` -/
def writeReport (report : PyObject) : DiskCall Unit :=
  ensuring (replacing (python.dump report)) unlinkTemporary

/-- What is read of the report file, if it can be opened and read. -/
def DiskAnswers.readable (answers : DiskAnswers) (content : Option Bytes) : Option Bytes :=
  if answers.opens && answers.reads then content else none

/-- `_read_report` -/
def readReport : DiskCall PyObject := fun s =>
  match s.answers.readable s.report with
  | none => some (.error .os, s)
  | some content => some (python.load content, s)

/-- `except (OSError, json.JSONDecodeError, TypeError) as error: raise ReportError(...)` -/
def converting (body : DiskCall Unit) : DiskCall Unit := do
  match ← attempt body with
  | .ok _ => pure ()
  | .error error => throw (if error.isConverted then .report .notUpdated else error)

/-- Read the report and write what it is changed into, if anything. -/
def updateReport (change : PyObject → Except UpdateError (Option PyObject)) : DiskCall Unit :=
  converting do
    let report ← readReport python
    match ← settle (change report) with
    | none => pure ()
    | some changed => writeReport python changed

/-! ## The updates -/

/-- A text in a report. -/
def text (text : String) : PyObject := .str (pyStr text)

/-- A list of texts in a report. -/
def texts (texts : List PyStr) : PyObject := .list (texts.map .str)

/-- The report with the result of the session validation. -/
def validatedReport (validation : SessionValidation) (timestamp : PyStr) :
    PyObject → Except UpdateError (Option PyObject)
  | .dict members =>
      let validated := setMember members (pyStr "session_validation") (.dict
        [(pyStr "status", text (if validation.passed then "passed" else "failed")),
          (pyStr "validated_at", .str timestamp),
          (pyStr "board_capabilities", texts validation.boardCapabilities),
          (pyStr "firmware_capabilities", texts validation.firmwareCapabilities),
          (pyStr "failures", texts validation.failures)])
      if validation.passed then .ok (some (.dict (popMember validated (pyStr "failure"))))
      else
        let failed := setMember (setMember validated (pyStr "status") (text "failed"))
          (pyStr "completed_at") (.str timestamp)
        .ok (some (.dict (setMember failed (pyStr "failure") (.dict
          [(pyStr "stage", text "session_validation"),
            (pyStr "message", .str ((pyStr "; ").intercalate validation.failures))]))))
  | _ => .error (.report .notAnObject)

/-- The `results` of a report. -/
def resultsOf : PyObject → Except UpdateError (List (PyStr × PyObject) × List PyObject)
  | .dict members =>
      match getMember members (pyStr "results") with
      | some (.list results) => .ok (members, results)
      | _ => .error (.report .invalidResults)
  | _ => .error (.report .invalidResults)

/-- The report with one more result. -/
def extendedReport (testType status : PyStr) (details : List (PyStr × PyObject))
    (timestamp : PyStr) (report : PyObject) : Except UpdateError (Option PyObject) := do
  let (members, results) ← resultsOf report
  let result : PyObject := .dict ([(pyStr "type", .str testType), (pyStr "status", .str status),
    (pyStr "completed_at", .str timestamp)] ++ details)
  let extended := setMember members (pyStr "results") (.list (results ++ [result]))
  if status ≠ pyStr "passed" then
    .ok (some (.dict (setMember (setMember extended (pyStr "status") (text "failed"))
      (pyStr "completed_at") (.str timestamp))))
  else .ok (some (.dict extended))

/-- `isinstance(result, dict)` -/
def isDict : PyObject → Bool
  | .dict _ => true
  | _ => false

/-- `result.get("status") != "passed"` -/
def isNotPassed : PyObject → Bool
  | .dict members =>
      match getMember members (pyStr "status") with
      | some (.str status) => decide (status ≠ pyStr "passed")
      | _ => true
  | _ => true

/-- The report as passed, unless a result is not. -/
def finalizedReport (timestamp : PyStr) (report : PyObject) :
    Except UpdateError (Option PyObject) := do
  let (members, results) ← resultsOf report
  if !results.all isDict then .error (.report .invalidResults)
  else if results.any isNotPassed then .ok none
  else .ok (some (.dict (setMember (setMember members (pyStr "status") (text "passed"))
    (pyStr "completed_at") (.str timestamp))))

/-- `record_session_validation` -/
def recordSessionValidation (validation : SessionValidation) (timestamp : PyStr) :
    DiskCall Unit :=
  updateReport python (validatedReport validation timestamp)

/-- The reserved fields among some details. -/
def reservedAmong (details : List (PyStr × PyObject)) : List PyStr :=
  reservedResultFields.filter fun field => (details.map Prod.fst).contains field

/-- `record_component_result` -/
def recordComponentResult (testType status : PyStr) (details : List (PyStr × PyObject))
    (timestamp : PyStr) : DiskCall Unit :=
  if !(reservedAmong details).isEmpty then
    throw (.report (.reservedFields (reservedAmong details)))
  else updateReport python (extendedReport testType status details timestamp)

/-- `finalize_component_run` -/
def finalizeComponentRun (timestamp : PyStr) : DiskCall Unit :=
  updateReport python (finalizedReport timestamp)

/-! ## Writing -/

section Calls

variable {s : Disk} {succeeds : DiskAnswers → Bool} {effect : Disk → Disk}

theorem fileCall_succeeds (answered : succeeds s.answers = true) :
    fileCall succeeds effect s = some (.ok (), effect s) :=
  if_pos answered

theorem fileCall_fails (answered : succeeds s.answers = false) :
    fileCall succeeds effect s = some (.error .os, s) :=
  if_neg (Bool.eq_false_iff.mp answered)

/-- What a `finally` block comes to. -/
theorem ensuring_ended {α : Type} {body : DiskCall α} {last : DiskCall Unit} {t u : Disk}
    {result : Except UpdateError α} {ended : Except UpdateError Unit}
    (first : body s = some (result, t)) (second : last t = some (ended, u)) :
    ensuring body last s = some (ended.bind fun _ => result, u) := by
  have tried : attempt body s = some (.ok result, t) := by
    show (body s).map _ = _
    rw [first]
    rfl
  refine (bind_returned tried).trans ?_
  cases ended with
  | error error => exact bind_raised second
  | ok value => exact bind_returned second

end Calls

/-- The whole content of a report. -/
def Dumped.complete (dumped : Dumped) : Bytes := dumped.text ++ [lineFeed]

/-- The exception in the body of the `with` statement, if there is one. -/
def bodyFailure (answers : DiskAnswers) (dumped : Dumped) : Option UpdateError :=
  if !answers.takes dumped.text.length then some .os
  else
    match dumped.error with
    | some error => some error.raised
    | none => if answers.takes dumped.complete.length && answers.flushes then none else some .os

theorem writeText_ended {s : Disk} {before text : Bytes} (opened : s.temporary = some before) :
    ∃ written, writeText text s = some (
        endedWith (if s.answers.takes (before ++ text).length then none else some .os),
        { s with temporary := some written }) ∧
      (s.answers.takes (before ++ text).length = true → written = before ++ text) := by
  rw [writeText, opened, Option.getD_some]
  by_cases fits : s.answers.takes (before ++ text).length = true
  · refine ⟨before ++ text, ?_, fun _ => rfl⟩
    rw [if_pos fits, if_pos fits]
    rfl
  · refine ⟨(before ++ text).take (s.answers.room.getD 0), ?_, fun other => absurd other fits⟩
    rw [if_neg fits, if_neg fits]
    rfl

/-- **The body of the `with` statement.** -/
theorem writeDumped_ended {s : Disk} {dumped : Dumped} (opened : s.temporary = some []) :
    ∃ written, writeDumped dumped s =
        some (endedWith (bodyFailure s.answers dumped), { s with temporary := some written }) ∧
      (bodyFailure s.answers dumped = none → written = dumped.complete) := by
  obtain ⟨first, wrote, whole⟩ := @writeText_ended _ _ dumped.text opened
  rw [List.nil_append] at wrote whole
  by_cases fits : s.answers.takes dumped.text.length = true
  · obtain rfl := whole fits
    rw [if_pos fits] at wrote
    have further : ∃ written, writeText [lineFeed] { s with temporary := some dumped.text } = some (
          endedWith (if s.answers.takes dumped.complete.length then none else some .os),
          { s with temporary := some written }) ∧
        (s.answers.takes dumped.complete.length = true → written = dumped.complete) :=
      @writeText_ended { s with temporary := some dumped.text } dumped.text [lineFeed] rfl
    obtain ⟨second, ended, complete⟩ := further
    rw [bodyFailure, if_neg (by rw [fits]; exact Bool.false_ne_true)]
    cases error : dumped.error with
    | some raised =>
        have settled : settle (endedWith (dumped.error.map EncodingError.raised))
            { s with temporary := some dumped.text } =
              some (.error raised.raised, { s with temporary := some dumped.text }) := by
          rw [error]
          rfl
        exact ⟨dumped.text, (bind_returned wrote).trans (bind_raised settled),
          fun none => absurd none (Option.some_ne_none _)⟩
    | none =>
        have settled : settle (endedWith (dumped.error.map EncodingError.raised))
            { s with temporary := some dumped.text } =
              some (.ok (), { s with temporary := some dumped.text }) := by
          rw [error]
          rfl
        refine ⟨second, (bind_returned wrote).trans ((bind_returned settled).trans ?_), ?_⟩
        · by_cases room : s.answers.takes dumped.complete.length = true
          · rw [if_pos room] at ended
            refine (bind_returned ended).trans ?_
            cases flushed : s.answers.flushes with
            | true =>
                rw [room]
                exact fileCall_succeeds flushed
            | false =>
                rw [room]
                exact fileCall_fails flushed
          · rw [if_neg room] at ended
            rw [Bool.eq_false_iff.mpr room]
            exact bind_raised ended
        · intro unfailing
          refine complete ?_
          by_contra full
          rw [show s.answers.takes dumped.complete.length = false from
            Bool.eq_false_iff.mpr full] at unfailing
          exact Option.some_ne_none _ unfailing
  · rw [if_neg fits] at wrote
    have failure : bodyFailure s.answers dumped = some .os := if_pos (by simpa using fits)
    rw [failure]
    exact ⟨first, bind_raised wrote, fun none => absurd none (Option.some_ne_none _)⟩

/-- The exception that keeps a new report from replacing the old one, if there is one. -/
def writeFailure (answers : DiskAnswers) (dumped : Dumped) : Option UpdateError :=
  if !answers.closes then some .os
  else
    match bodyFailure answers dumped with
    | some error => some error
    | none => if answers.renames then none else some .os

/-- **What writing a report comes to.** -/
inductive Written (dumped : Dumped) (s : Disk) : Except UpdateError Unit → Disk → Prop where
  | notCreated (creates : s.answers.creates = false) : Written dumped s (.error .os) s
  | replaced (creates : s.answers.creates = true)
      (unfailing : writeFailure s.answers dumped = none) :
      Written dumped s (endedWith (if s.answers.removes then none else some .os))
        { s with report := some dumped.complete, temporary := none }
  | abandoned {error : UpdateError} {written : Bytes} (creates : s.answers.creates = true)
      (failed : writeFailure s.answers dumped = some error) :
      Written dumped s (.error (if s.answers.removes then error else .os))
        { s with temporary := if s.answers.removes then none else some written }

variable {python : Interpreter}

/-- The `with` statement, and the renaming after it. -/
theorem replacing_ended {s : Disk} {dumped : Dumped} (creates : s.answers.creates = true) :
    ∃ written, replacing dumped s = some (endedWith (writeFailure s.answers dumped),
      if writeFailure s.answers dumped = none then
        { s with report := some dumped.complete, temporary := none }
      else { s with temporary := some written }) := by
  have created : createTemporary s = some (.ok (), { s with temporary := some [] }) :=
    fileCall_succeeds creates
  obtain ⟨written, body, complete⟩ := @writeDumped_ended { s with temporary := some [] } dumped rfl
  refine ⟨written, (bind_returned created).trans ?_⟩
  rw [writeFailure]
  cases closed : s.answers.closes with
  | false =>
      have closing : fileCall DiskAnswers.closes id { s with temporary := some written } =
          some (.error .os, { s with temporary := some written }) := fileCall_fails closed
      exact bind_raised (ensuring_ended body closing)
  | true =>
      have closing : fileCall DiskAnswers.closes id { s with temporary := some written } =
          some (.ok (), { s with temporary := some written }) := fileCall_succeeds closed
      have ended := ensuring_ended body closing
      cases failed : bodyFailure s.answers dumped with
      | some error =>
          rw [failed] at ended
          exact bind_raised ended
      | none =>
          obtain rfl := complete failed
          rw [failed] at ended
          refine (bind_returned ended).trans ?_
          cases renamed : s.answers.renames with
          | true => exact fileCall_succeeds renamed
          | false => exact fileCall_fails renamed

/-- **`_write_report`** -/
theorem writeReport_ended {s : Disk} (report : PyObject) (absent : s.temporary = none) :
    ∃ result t, writeReport python report s = some (result, t) ∧
      Written (python.dump report) s result t := by
  cases created : s.answers.creates with
  | false =>
      have body : replacing (python.dump report) s = some (.error .os, s) :=
        bind_raised (fileCall_fails created)
      cases removed : s.answers.removes with
      | true =>
          have removing : unlinkTemporary s = some (.ok (), { s with temporary := none }) :=
            fileCall_succeeds removed
          refine ⟨_, _, ensuring_ended body removing, ?_⟩
          rw [← absent]
          exact .notCreated created
      | false =>
          have removing : unlinkTemporary s = some (.error .os, s) := fileCall_fails removed
          exact ⟨_, _, ensuring_ended body removing, .notCreated created⟩
  | true =>
      obtain ⟨written, body⟩ := @replacing_ended s (python.dump report) created
      cases failed : writeFailure s.answers (python.dump report) with
      | none =>
          rw [if_pos failed, failed] at body
          have spec := Written.replaced created failed
          cases removed : s.answers.removes with
          | true =>
              rw [removed] at spec
              exact ⟨_, _, ensuring_ended body (fileCall_succeeds removed), spec⟩
          | false =>
              rw [removed] at spec
              exact ⟨_, _, ensuring_ended body (fileCall_fails removed), spec⟩
      | some error =>
          rw [if_neg (by rw [failed]; exact Option.some_ne_none error), failed] at body
          have spec := @Written.abandoned _ s error written created failed
          cases removed : s.answers.removes with
          | true =>
              rw [removed] at spec
              exact ⟨_, _, ensuring_ended body (fileCall_succeeds removed), spec⟩
          | false =>
              rw [removed] at spec
              exact ⟨_, _, ensuring_ended body (fileCall_fails removed), spec⟩

/-! ## Updates -/

/-- The updates of a report, each with its timestamp. -/
inductive ReportUpdate where
  | sessionValidation (validation : SessionValidation) (timestamp : PyStr)
  | componentResult (testType status : PyStr) (details : List (PyStr × PyObject))
      (timestamp : PyStr)
  | finalization (timestamp : PyStr)

/-- The call that makes an update. -/
def ReportUpdate.perform (python : Interpreter) : ReportUpdate → DiskCall Unit
  | .sessionValidation validation timestamp => recordSessionValidation python validation timestamp
  | .componentResult testType status details timestamp =>
      recordComponentResult python testType status details timestamp
  | .finalization timestamp => finalizeComponentRun python timestamp

/-- What an update makes of a report: a new one, or nothing. -/
def ReportUpdate.change : ReportUpdate → PyObject → Except UpdateError (Option PyObject)
  | .sessionValidation validation timestamp => validatedReport validation timestamp
  | .componentResult testType status details timestamp =>
      extendedReport testType status details timestamp
  | .finalization timestamp => finalizedReport timestamp

/-- The reserved fields in the details of an update. -/
def ReportUpdate.reserved : ReportUpdate → List PyStr
  | .componentResult _ _ details _ => reservedAmong details
  | _ => []

/-- The results that were recorded earlier are still there, and at most others behind them. -/
def KeepsResults (report changed : PyObject) : Prop :=
  ∃ members members', report = .dict members ∧ changed = .dict members' ∧
    (getMember members' (pyStr "results") = getMember members (pyStr "results") ∨
      ∃ earlier added, getMember members (pyStr "results") = some (.list earlier) ∧
        getMember members' (pyStr "results") = some (.list (earlier ++ added)))

/-- The content of a report after an update of a file with some content. -/
def IsUpdated (python : Interpreter) (update : ReportUpdate) (content updated : Bytes) : Prop :=
  ∃ report changed, python.load content = .ok report ∧ update.change report = .ok (some changed) ∧
    KeepsResults report changed ∧ (python.dump changed).error = none ∧
    updated = (python.dump changed).complete

/-- There is nothing to be changed in the report. -/
def IsUnchanged (python : Interpreter) (update : ReportUpdate) (content : Bytes) : Prop :=
  ∃ report, python.load content = .ok report ∧ update.change report = .ok none

/-- **An atomic update**: the report is the old one or the new one, and the new one if the call
returns and there was something to be changed; there is no temporary file; and every exception is a
`ReportError`. -/
structure IsAtomic (python : Interpreter) (update : ReportUpdate) (content : Option Bytes)
    (result : Except UpdateError Unit) (after : Disk) : Prop where
  whole : after.report = content ∨ ∃ previous updated, content = some previous ∧
    IsUpdated python update previous updated ∧ after.report = some updated
  returned : result = .ok () → ∃ previous, content = some previous ∧
    (IsUnchanged python update previous ∧ after.report = content ∨
      ∃ updated, IsUpdated python update previous updated ∧ after.report = some updated)
  removed : after.temporary = none
  surfaced : ∀ error, result = .error error → error.isReportError = true

/-- **A new report is written safely**: `json.dump` raises nothing but a `TypeError`, unless
something else fails, and the temporary file can be removed, unless it replaces the report. -/
structure WritesSafely (answers : DiskAnswers) (dumped : Dumped) : Prop where
  encoded : answers.creates = true → answers.takes dumped.text.length = true →
    answers.closes = true → ∀ error, dumped.error = some error → error = .type
  removed : answers.creates = true → answers.removes = true ∨ dumped.error = none ∧
    answers.takes dumped.complete.length = true ∧ answers.flushes = true ∧
    answers.closes = true ∧ answers.renames = true

/-- **A safe update**: what is read of the report is UTF-8 and within the limits of `json.load`, and
what it is changed into is written safely. -/
structure IsSafe (python : Interpreter) (update : ReportUpdate) (content : Option Bytes)
    (answers : DiskAnswers) : Prop where
  decodable : update.reserved = [] → ∀ previous, answers.readable content = some previous →
    ∃ text, decodeUtf8 previous = some text ∧ python.loadLimit (universalNewlines text) = none
  encodable : update.reserved = [] → ∀ previous report changed,
    answers.readable content = some previous → python.load previous = .ok report →
    update.change report = .ok (some changed) → WritesSafely answers (python.dump changed)

theorem takes_text {answers : DiskAnswers} {dumped : Dumped}
    (takes : answers.takes dumped.complete.length = true) :
    answers.takes dumped.text.length = true := by
  have shorter : dumped.text.length ≤ dumped.complete.length := by
    rw [Dumped.complete, List.length_append]
    exact Nat.le_add_right _ _
  rw [DiskAnswers.takes] at takes ⊢
  cases limited : answers.room with
  | none => rfl
  | some room =>
      rw [limited] at takes
      exact decide_eq_true (Nat.le_trans shorter (of_decide_eq_true takes))

theorem bodyFailure_eq_none_iff {answers : DiskAnswers} {dumped : Dumped} :
    bodyFailure answers dumped = none ↔ dumped.error = none ∧
      answers.takes dumped.complete.length = true ∧ answers.flushes = true := by
  rw [bodyFailure]
  by_cases fits : answers.takes dumped.text.length = true
  · rw [fits, if_neg (by decide)]
    cases dumped.error with
    | some error =>
        exact iff_of_false (Option.some_ne_none _) fun both => Option.some_ne_none _ both.1
    | none =>
        dsimp only
        rw [← Bool.and_eq_true_iff, and_iff_right rfl]
        split_ifs with both
        · exact iff_of_true rfl both
        · exact iff_of_false id both
  · rw [Bool.eq_false_iff.mpr fits, if_pos (by decide)]
    exact iff_of_false (Option.some_ne_none _) fun all => fits (takes_text all.2.1)

theorem writeFailure_eq_none_iff {answers : DiskAnswers} {dumped : Dumped} :
    writeFailure answers dumped = none ↔ dumped.error = none ∧
      answers.takes dumped.complete.length = true ∧ answers.flushes = true ∧
      answers.closes = true ∧ answers.renames = true := by
  rw [writeFailure]
  cases answers.closes with
  | false => exact iff_of_false (fun failed => Option.some_ne_none _ failed) (by simp)
  | true =>
      rw [if_neg (by decide)]
      cases failed : bodyFailure answers dumped with
      | some error =>
          refine iff_of_false (Option.some_ne_none _) fun all => ?_
          exact Option.some_ne_none error
            (failed.symm.trans (bodyFailure_eq_none_iff.mpr ⟨all.1, all.2.1, all.2.2.1⟩))
      | none =>
          obtain ⟨encoded, fits, flushed⟩ := bodyFailure_eq_none_iff.mp failed
          cases answers.renames with
          | false => exact iff_of_false (fun failed => Option.some_ne_none _ failed) (by simp)
          | true => exact iff_of_true rfl ⟨encoded, fits, flushed, rfl, rfl⟩

/-- A failure that does not surface comes from `json.dump`, and nothing hides it. -/
theorem writeFailure_surfaces_iff {answers : DiskAnswers} {dumped : Dumped} :
    (∀ error, writeFailure answers dumped = some error →
        error.isConverted = true ∨ error.isReportError = true) ↔
      (answers.takes dumped.text.length = true → answers.closes = true →
        ∀ error, dumped.error = some error → error = .type) := by
  have os : ∀ error, some UpdateError.os = some error →
      error.isConverted = true ∨ error.isReportError = true := by
    rintro _ ⟨⟩
    exact .inl rfl
  rw [writeFailure]
  cases answers.closes with
  | false => exact iff_of_true os fun _ closed => absurd closed Bool.false_ne_true
  | true =>
      rw [if_neg (by decide), bodyFailure]
      by_cases fits : answers.takes dumped.text.length = true
      · rw [fits, if_neg (by decide)]
        cases dumped.error with
        | some error =>
            cases error with
            | type => simp [EncodingError.raised, UpdateError.isConverted]
            | limit error =>
                simp [EncodingError.raised, UpdateError.isConverted, UpdateError.isReportError]
        | none =>
            refine iff_of_true ?_ fun _ _ _ none => absurd none.symm (Option.some_ne_none _)
            cases answers.takes dumped.complete.length && answers.flushes with
            | false => exact os
            | true =>
                cases answers.renames with
                | false => exact os
                | true => exact fun _ none => absurd none.symm (Option.some_ne_none _)
      · rw [Bool.eq_false_iff.mpr fits, if_pos (by decide)]
        exact iff_of_true os fun fitting => absurd fitting Bool.false_ne_true

/-! ## What the updates change -/

theorem resultsOf_ok {report : PyObject} {members : List (PyStr × PyObject)}
    {results : List PyObject} (read : resultsOf report = .ok (members, results)) :
    report = .dict members ∧ getMember members (pyStr "results") = some (.list results) := by
  cases report with
  | dict listed =>
      rw [resultsOf] at read
      split at read
      · rename_i found
        obtain ⟨rfl, rfl⟩ := Prod.mk.inj (Except.ok.inj read)
        exact ⟨rfl, found⟩
      · cases read
  | _ => cases read

theorem resultsOf_error {report : PyObject} {error : UpdateError}
    (refused : resultsOf report = .error error) : error.isReportError = true := by
  cases report with
  | dict listed =>
      rw [resultsOf] at refused
      split at refused
      · cases refused
      · obtain rfl := Except.error.inj refused
        rfl
  | _ =>
      obtain rfl := Except.error.inj refused
      rfl

/-- An update that is refused raises a `ReportError`. -/
theorem change_raises {update : ReportUpdate} {report : PyObject} {error : UpdateError}
    (raised : update.change report = .error error) : error.isReportError = true := by
  cases update with
  | sessionValidation validation timestamp =>
      cases report with
      | dict members =>
          rw [ReportUpdate.change, validatedReport] at raised
          split_ifs at raised
      | _ =>
          obtain rfl := Except.error.inj raised
          rfl
  | componentResult testType status details timestamp =>
      rw [ReportUpdate.change, extendedReport, except_bind_eq_error_iff] at raised
      rcases raised with refused | ⟨both, read, raised⟩
      · exact resultsOf_error refused
      · split_ifs at raised
  | finalization timestamp =>
      rw [ReportUpdate.change, finalizedReport, except_bind_eq_error_iff] at raised
      rcases raised with refused | ⟨⟨members, results⟩, read, raised⟩
      · exact resultsOf_error refused
      · dsimp only at raised
        split_ifs at raised
        obtain rfl := Except.error.inj raised
        rfl

/-- **No update loses or alters a result.** -/
theorem change_keepsResults {update : ReportUpdate} {report changed : PyObject}
    (made : update.change report = .ok (some changed)) : KeepsResults report changed := by
  have validation : pyStr "results" ≠ pyStr "session_validation" := by decide
  have status : pyStr "results" ≠ pyStr "status" := by decide
  have completed : pyStr "results" ≠ pyStr "completed_at" := by decide
  have failure : pyStr "results" ≠ pyStr "failure" := by decide
  cases update with
  | sessionValidation result timestamp =>
      cases report with
      | dict members =>
          rw [ReportUpdate.change, validatedReport] at made
          split_ifs at made
          · obtain rfl := Option.some.inj (Except.ok.inj made)
            refine ⟨members, _, rfl, rfl, .inl ?_⟩
            rw [getMember_popMember_of_ne failure, getMember_setMember_of_ne validation]
          · obtain rfl := Option.some.inj (Except.ok.inj made)
            refine ⟨members, _, rfl, rfl, .inl ?_⟩
            rw [getMember_setMember_of_ne failure, getMember_setMember_of_ne completed,
              getMember_setMember_of_ne status, getMember_setMember_of_ne validation]
      | _ => cases made
  | componentResult testType outcome details timestamp =>
      rw [ReportUpdate.change, extendedReport, except_bind_eq_ok_iff] at made
      obtain ⟨⟨members, results⟩, read, made⟩ := made
      obtain ⟨rfl, listed⟩ := resultsOf_ok read
      split_ifs at made
      · obtain rfl := Option.some.inj (Except.ok.inj made)
        have set : ∀ {extended : List (PyStr × PyObject)} {value : PyObject},
            getMember extended (pyStr "results") = some value →
            getMember (setMember (setMember extended (pyStr "status") (text "failed"))
              (pyStr "completed_at") (.str timestamp)) (pyStr "results") = some value := by
          intro extended value held
          rw [getMember_setMember_of_ne completed, getMember_setMember_of_ne status, held]
        exact ⟨members, _, rfl, rfl,
          .inr ⟨results, _, listed, set getMember_setMember_self⟩⟩
      · obtain rfl := Option.some.inj (Except.ok.inj made)
        exact ⟨members, _, rfl, rfl, .inr ⟨results, _, listed, getMember_setMember_self⟩⟩
  | finalization timestamp =>
      rw [ReportUpdate.change, finalizedReport, except_bind_eq_ok_iff] at made
      obtain ⟨⟨members, results⟩, read, made⟩ := made
      obtain ⟨rfl, listed⟩ := resultsOf_ok read
      dsimp only at made
      split_ifs at made
      · cases made
      · obtain rfl := Option.some.inj (Except.ok.inj made)
        refine ⟨members, _, rfl, rfl, .inl ?_⟩
        rw [getMember_setMember_of_ne completed, getMember_setMember_of_ne status]

/-! ## Atomicity -/

/-- An exception as it leaves the `try` statement. -/
def UpdateError.surfaced (error : UpdateError) : UpdateError :=
  if error.isConverted then .report .notUpdated else error

theorem isReportError_surfaced_iff {error : UpdateError} :
    error.surfaced.isReportError = true ↔
      error.isConverted = true ∨ error.isReportError = true := by
  rw [UpdateError.surfaced]
  split_ifs with converted
  · exact iff_of_true rfl (.inl converted)
  · exact ⟨.inr, fun either => either.resolve_left converted⟩

section Converting

variable {body : DiskCall Unit} {s t : Disk}

theorem converting_ended {result : Except UpdateError Unit} (ended : body s = some (result, t)) :
    converting body s = some (result.mapError UpdateError.surfaced, t) := by
  have tried : attempt body s = some (.ok result, t) := by
    show (body s).map _ = _
    rw [ended]
    rfl
  refine (bind_returned tried).trans ?_
  cases result with
  | ok value => rfl
  | error error => rfl

end Converting

/-- The disk before an update. -/
def Disk.initial (content : Option Bytes) (answers : DiskAnswers) : Disk where
  report := content
  temporary := none
  answers := answers

/-- All updates check the details, and then read, change and write the report. -/
theorem perform_eq (update : ReportUpdate) : update.perform python =
    if !update.reserved.isEmpty then throw (.report (.reservedFields update.reserved))
    else updateReport python update.change := by
  cases update with
  | sessionValidation validation timestamp => rfl
  | componentResult testType status details timestamp => rfl
  | finalization timestamp => rfl

section Update

variable {update : ReportUpdate} {content : Option Bytes} {answers : DiskAnswers}

/-- An update that raises an exception and leaves the report as it was. -/
theorem isAtomic_of_raised {error : UpdateError} {after : Disk} (same : after.report = content)
    (removed : after.temporary = none) :
    IsAtomic python update content (.error error.surfaced) after ↔
      error.isConverted = true ∨ error.isReportError = true := by
  rw [← isReportError_surfaced_iff]
  constructor
  · intro atomic
    exact atomic.surfaced error.surfaced rfl
  · intro reported
    refine ⟨.inl same, fun returned => ?_, removed, ?_⟩
    · cases returned
    · rintro _ ⟨⟩
      exact reported

theorem readable_eq {previous : Bytes} (readable : answers.readable content = some previous) :
    content = some previous := by
  rw [DiskAnswers.readable] at readable
  split_ifs at readable
  exact readable

/-- The exceptions of `json.load` that are not converted. -/
theorem load_error_iff {previous : Bytes} {error : UpdateError}
    (raised : python.load previous = .error error) :
    (error.isConverted = true ∨ error.isReportError = true) ↔
      ∃ text, decodeUtf8 previous = some text ∧
        python.loadLimit (universalNewlines text) = none := by
  rw [Interpreter.load] at raised
  cases decoded : decodeUtf8 previous with
  | none =>
      rw [decoded] at raised
      obtain rfl := Except.error.inj raised
      refine iff_of_false (by decide) ?_
      rintro ⟨text, none, _⟩
      exact Option.some_ne_none _ none.symm
  | some text =>
      rw [decoded] at raised
      dsimp only at raised
      cases limited : python.loadLimit (universalNewlines text) with
      | some limit =>
          rw [limited] at raised
          obtain rfl := Except.error.inj raised
          refine iff_of_false (by simp [UpdateError.isConverted, UpdateError.isReportError]) ?_
          rintro ⟨_, ⟨⟩, within⟩
          exact Option.some_ne_none limit (limited.symm.trans within)
      | none =>
          rw [limited] at raised
          dsimp only at raised
          cases scanned : loads (universalNewlines text) with
          | none =>
              rw [scanned] at raised
              obtain rfl := Except.error.inj raised
              exact iff_of_true (.inl rfl) ⟨text, rfl, limited⟩
          | some report =>
              rw [scanned] at raised
              cases raised

theorem load_ok {previous : Bytes} {report : PyObject}
    (loaded : python.load previous = .ok report) :
    ∃ text, decodeUtf8 previous = some text ∧
      python.loadLimit (universalNewlines text) = none := by
  rw [Interpreter.load] at loaded
  cases decoded : decodeUtf8 previous with
  | none =>
      rw [decoded] at loaded
      cases loaded
  | some text =>
      rw [decoded] at loaded
      dsimp only at loaded
      cases limited : python.loadLimit (universalNewlines text) with
      | some limit =>
          rw [limited] at loaded
          cases loaded
      | none => exact ⟨text, rfl, limited⟩

/-- **A new report is written.** -/
theorem written_atomic_iff {previous : Bytes} {report changed : PyObject}
    (held : content = some previous) (loaded : python.load previous = .ok report)
    (made : update.change report = .ok (some changed)) {result : Except UpdateError Unit}
    {after : Disk} (written : Written (python.dump changed) (.initial content answers) result after) :
    IsAtomic python update content (result.mapError UpdateError.surfaced) after ↔
      WritesSafely answers (python.dump changed) := by
  have updated : (python.dump changed).error = none →
      IsUpdated python update previous (python.dump changed).complete := fun encoded =>
    ⟨report, changed, loaded, made, change_keepsResults made, encoded, rfl⟩
  cases written with
  | notCreated creates =>
      have same : (Disk.initial content answers).report = content := rfl
      have absent : (Disk.initial content answers).temporary = none := rfl
      refine iff_of_true ((isAtomic_of_raised same absent).mpr (.inl rfl)) ⟨?_, ?_⟩
      · exact fun created => absurd (creates.symm.trans created) Bool.false_ne_true
      · exact fun created => absurd (creates.symm.trans created) Bool.false_ne_true
  | replaced creates unfailing =>
      obtain ⟨encoded, through⟩ := writeFailure_eq_none_iff.mp unfailing
      have new : ∃ previous updated, content = some previous ∧
          IsUpdated python update previous updated ∧
            some (python.dump changed).complete = some updated :=
        ⟨previous, _, held, updated encoded, rfl⟩
      refine iff_of_true ?_ ⟨?_, fun _ => .inr ⟨encoded, through⟩⟩
      · cases (Disk.initial content answers).answers.removes with
        | true =>
            refine ⟨.inr new, fun _ => ?_, rfl, fun _ raised => ?_⟩
            · exact ⟨previous, held, .inr ⟨_, updated encoded, rfl⟩⟩
            · cases raised
        | false =>
            refine ⟨.inr new, fun returned => ?_, rfl, ?_⟩
            · cases returned
            · rintro _ ⟨⟩
              rfl
      · intro _ _ _ error raised
        exact absurd (raised.symm.trans encoded) (Option.some_ne_none error)
  | @abandoned error written creates failed =>
      have surfaces := @writeFailure_surfaces_iff answers (python.dump changed)
      have only : (∀ other, writeFailure answers (python.dump changed) = some other →
          other.isConverted = true ∨ other.isReportError = true) ↔
          (error.isConverted = true ∨ error.isReportError = true) := by
        constructor
        · exact fun all => all error failed
        · intro this other same
          obtain rfl := Option.some.inj (failed.symm.trans same)
          exact this
      cases removes : answers.removes with
      | true =>
          have atomic := @isAtomic_of_raised python update content error
            { Disk.initial content answers with temporary := none } rfl rfl
          show IsAtomic python update content (.error (if answers.removes then error else _).surfaced)
            { Disk.initial content answers with
              temporary := if answers.removes then none else some written } ↔ _
          rw [removes]
          refine atomic.trans (only.symm.trans (surfaces.trans ⟨fun encoded => ?_, fun safe => ?_⟩))
          · exact ⟨fun _ => encoded, fun _ => .inl removes⟩
          · exact safe.encoded creates
      | false =>
          refine iff_of_false (fun atomic => ?_) fun safe => ?_
          · have removed : (if answers.removes then none else some written) = none := atomic.removed
            rw [removes] at removed
            exact Option.some_ne_none written removed
          · rcases safe.removed creates with possible | through
            · exact Bool.false_ne_true (removes.symm.trans possible)
            · exact Option.some_ne_none error
                (failed.symm.trans (writeFailure_eq_none_iff.mpr through))

theorem readReport_readable {previous : Bytes}
    (readable : answers.readable content = some previous) :
    readReport python (.initial content answers) =
      some (python.load previous, .initial content answers) := by
  show (match answers.readable content with | none => _ | some content => _) = _
  rw [readable]

/-- The update of a report that is read. -/
theorem updated_atomic_iff {previous : Bytes} {report : PyObject} (allowed : update.reserved = [])
    (readable : answers.readable content = some previous)
    (loaded : python.load previous = .ok report) :
    ∃ result after, updateReport python update.change (.initial content answers) =
        some (result, after) ∧
      (IsAtomic python update content result after ↔ IsSafe python update content answers) := by
  have held := readable_eq readable
  have same : (Disk.initial content answers).report = content := rfl
  have absent : (Disk.initial content answers).temporary = none := rfl
  have read : readReport python (.initial content answers) =
      some (.ok report, .initial content answers) := by
    rw [readReport_readable readable, loaded]
  have decodable : update.reserved = [] → ∀ bytes, answers.readable content = some bytes →
      ∃ text, decodeUtf8 bytes = some text ∧
        python.loadLimit (universalNewlines text) = none := by
    intro _ bytes same
    obtain rfl := Option.some.inj (readable.symm.trans same)
    exact load_ok loaded
  cases made : update.change report with
  | error error =>
      have settled : settle (update.change report) (Disk.initial content answers) =
          some (.error error, .initial content answers) := by
        rw [made]
        rfl
      refine ⟨_, _, converting_ended ((bind_returned read).trans (bind_raised settled)), ?_⟩
      refine iff_of_true ((isAtomic_of_raised same absent).mpr (.inr (change_raises made)))
        ⟨decodable, fun _ bytes other changed readable' loaded' made' => ?_⟩
      obtain rfl := Option.some.inj (readable.symm.trans readable')
      obtain rfl := Except.ok.inj (loaded.symm.trans loaded')
      cases made.symm.trans made'
  | ok changed =>
      have settled : settle (update.change report) (Disk.initial content answers) =
          some (.ok changed, .initial content answers) := by
        rw [made]
        rfl
      cases changed with
      | none =>
          refine ⟨_, _, converting_ended ((bind_returned read).trans (bind_returned settled)), ?_⟩
          refine iff_of_true ⟨.inl same, fun _ => ?_, absent, fun error raised => ?_⟩
            ⟨decodable, fun _ bytes other changed readable' loaded' made' => ?_⟩
          · exact ⟨previous, held, .inl ⟨⟨report, loaded, made⟩, same⟩⟩
          · cases raised
          · obtain rfl := Option.some.inj (readable.symm.trans readable')
            obtain rfl := Except.ok.inj (loaded.symm.trans loaded')
            cases made.symm.trans made'
      | some changed =>
          obtain ⟨result, after, wrote, written⟩ := writeReport_ended changed absent
          refine ⟨_, _, converting_ended
            ((bind_returned read).trans ((bind_returned settled).trans wrote)), ?_⟩
          refine (written_atomic_iff held loaded made written).trans ⟨fun safe => ?_, fun safe => ?_⟩
          · refine ⟨decodable, fun _ bytes other changed' readable' loaded' made' => ?_⟩
            obtain rfl := Option.some.inj (readable.symm.trans readable')
            obtain rfl := Except.ok.inj (loaded.symm.trans loaded')
            obtain rfl := Option.some.inj (Except.ok.inj (made.symm.trans made'))
            exact safe
          · exact safe.encodable allowed previous report changed readable loaded made

/-- **Report updates are atomic exactly if they are safe.** -/
theorem report_update_atomic_iff (python : Interpreter) (update : ReportUpdate)
    (content : Option Bytes) (answers : DiskAnswers) :
    ∃ result after, update.perform python (.initial content answers) = some (result, after) ∧
      (IsAtomic python update content result after ↔ IsSafe python update content answers) := by
  have same : (Disk.initial content answers).report = content := rfl
  have absent : (Disk.initial content answers).temporary = none := rfl
  rw [perform_eq]
  cases allowed : update.reserved with
  | cons field fields =>
      have atomic := @isAtomic_of_raised python update content
        (.report (.reservedFields (field :: fields))) _ same absent
      refine ⟨_, _, rfl, iff_of_true (atomic.mpr (.inr rfl)) ⟨?_, ?_⟩⟩
      · exact fun none => absurd (allowed.symm.trans none) (List.cons_ne_nil _ _)
      · exact fun none => absurd (allowed.symm.trans none) (List.cons_ne_nil _ _)
  | nil =>
      rw [if_neg (by decide)]
      cases readable : answers.readable content with
      | none =>
          have read : readReport python (.initial content answers) =
              some (.error .os, .initial content answers) := by
            show (match answers.readable content with | none => _ | some content => _) = _
            rw [readable]
          refine ⟨_, _, converting_ended (bind_raised read), ?_⟩
          refine iff_of_true ((isAtomic_of_raised same absent).mpr (.inl rfl)) ⟨?_, ?_⟩
          · exact fun _ _ other => absurd (other.symm.trans readable) (Option.some_ne_none _)
          · exact fun _ _ _ _ other => absurd (other.symm.trans readable) (Option.some_ne_none _)
      | some previous =>
          cases loaded : python.load previous with
          | error error =>
              have read : readReport python (.initial content answers) =
                  some (.error error, .initial content answers) := by
                rw [readReport_readable readable, loaded]
              refine ⟨_, _, converting_ended (bind_raised read), ?_⟩
              refine (isAtomic_of_raised same absent).trans ((load_error_iff loaded).trans ?_)
              constructor
              · refine fun decoded => ⟨fun _ bytes other => ?_, fun _ bytes report _ other read => ?_⟩
                · obtain rfl := Option.some.inj (readable.symm.trans other)
                  exact decoded
                · obtain rfl := Option.some.inj (readable.symm.trans other)
                  cases loaded.symm.trans read
              · exact fun safe => safe.decodable allowed previous readable
          | ok report => exact updated_atomic_iff allowed readable loaded

end Update

/-! ## An update that escapes -/

/-- An interpreter without limits, and a spelling for floats. -/
def unlimited : Interpreter where
  floatText _ := ascii "0.5"
  loadLimit _ := none
  dumpLimit _ := none

/-- A disk on which everything succeeds. -/
def workingDisk : DiskAnswers where
  opens := true
  reads := true
  creates := true
  room := none
  flushes := true
  closes := true
  renames := true
  removes := true

/-- A report that is no UTF-8, on a disk on which everything succeeds: the update raises a
`UnicodeDecodeError`. -/
theorem undecodable_report_escapes : ∃ after,
    (ReportUpdate.finalization (pyStr "2026-01-01T00:00:00Z")).perform unlimited
        (.initial (some [255]) workingDisk) = some (.error .unicodeDecode, after) ∧
      ¬IsAtomic unlimited (.finalization (pyStr "2026-01-01T00:00:00Z")) (some [255])
        (.error .unicodeDecode) after := by
  refine ⟨_, rfl, fun atomic => ?_⟩
  exact Bool.false_ne_true (atomic.surfaced _ rfl)

end FlightComputer.BoardTester.OnDisk
