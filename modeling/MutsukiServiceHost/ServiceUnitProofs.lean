import Mathlib.Data.List.DropRight
import MutsukiServiceHost.ExceptStepProofs
import MutsukiServiceHost.LineSplitProofs
import MutsukiServiceHost.QuotedWordsProofs
import MutsukiServiceHost.ServiceNameProofs
import MutsukiServiceHost.TextReplaceProofs

/-! # The systemd unit

    `systemd_unit` writes the launch arguments and the service user into a text
    with three escaping helpers, and systemd reads the text in layers: lines and
    their continuations, directives, quoted words, specifiers, variables.

    * `systemd_unit_means_iff` — the accepted unit means what was asked for, on
      every machine and in every environment, exactly if no program argument
      holds `$$` or `${NAME}` or is `$NAME`, and the user does not end with a
      backslash: `systemd_quote` leaves `$` as it is, and `systemd_atom` the
      backslash. -/

namespace ServiceDaemon

open ExceptStep
open ServiceLoad (Sections isWhitespace trim)

/-! ## Arguments -/

/-- `OsString`. -/
abbrev OsString : Type := ByteArray

/-- `OsString::from`. -/
def OsString.from (s : String) : OsString := s.toUTF8

/-- `DaemonScope`. -/
inductive DaemonScope where
  | user
  | system
  deriving DecidableEq, Repr

/-- `DaemonLaunchOptions`, with its paths as they are passed on. -/
structure DaemonLaunchOptions where
  executablePath : OsString
  configFile : Option OsString
  homeDir : OsString
  profile : String

/-- `launch_arguments`. -/
def launchArguments (launch : DaemonLaunchOptions) (command : String) : List OsString :=
  [.from "--home", launch.homeDir, .from "--profile", .from launch.profile]
    ++ (match launch.configFile with
        | some configFile => [.from "--config", configFile]
        | none => [])
    ++ [.from command]

/-- `foreground_launch_arguments`. -/
def foregroundLaunchArguments (launch : DaemonLaunchOptions) : List OsString :=
  launchArguments launch "run"

/-- `char::is_control`. -/
def isControl (c : Char) : Bool := c.toNat < 0x20 || (0x7F ≤ c.toNat && c.toNat < 0xA0)

/-- `validate_text`. -/
def validateText (value field : String) : Except String Unit :=
  if value.toList.any isControl then .error (field ++ " contains an unsupported control character")
  else .ok ()

/-- `os_string`. -/
def osString (value : OsString) (field : String) : Except String String :=
  match String.fromUTF8? value with
  | none => .error (field ++ " is not valid UTF-8")
  | some value => do
      validateText value field
      return value

/-- The executable and its arguments. -/
def programArguments (launch : DaemonLaunchOptions) : List OsString :=
  launch.executablePath :: foregroundLaunchArguments launch

/-- `launch_program_arguments`. -/
def launchProgramArguments (launch : DaemonLaunchOptions) : Except String (List String) :=
  (programArguments launch).mapM (osString · "launch argument")

/-- `validate_scope`. -/
def validateScope (scope : DaemonScope) (serviceUser : Option String) :
    Except String (Option String) :=
  match scope with
  | .user =>
      if serviceUser.isSome then .error "service_user is valid only for system scope" else .ok none
  | .system =>
      -- a blank user is no user
      match (serviceUser.map trim).filter (· ≠ "") with
      | none => .error "system scope requires an explicit non-root service_user"
      | some serviceUser => do
          validateText serviceUser "service_user"
          if serviceUser = "root" then .error "system scope service_user must not be root"
          else return some serviceUser

/-! ## Writing -/

/-- A piece of the unit. -/
abbrev Text : Type := List Char

/-- `str::replace` of a character. -/
def replaceChar (old : Char) (new text : Text) : Text :=
  text.flatMap fun c => if c = old then new else [c]

/-- `systemd_quote`. -/
def systemdQuote (value : String) : Except String Text := do
  validateText value "systemd argument"
  -- the backslash goes before the quote, whose escape has one; `$` stays
  let text := replaceChar '"' ['\\', '"']
    (replaceChar '\\' ['\\', '\\'] (replaceChar '%' ['%', '%'] value.toList))
  return '"' :: (text ++ ['"'])

/-- A byte in `systemd_path`. -/
def pathByte (byte : UInt8) : Text :=
  let c := Char.ofNat byte.toNat
  if ('A' ≤ c ∧ c ≤ 'Z') ∨ ('a' ≤ c ∧ c ≤ 'z') ∨ ('0' ≤ c ∧ c ≤ '9') ∨ c ∈ ['/', '.', '_', '-'] then
    [c]
  else if c = '%' then ['%', '%']
  else ['\\', 'x', Nat.digitChar (byte.toNat / 16), Nat.digitChar (byte.toNat % 16)]

/-- `systemd_path`. -/
def systemdPath (value : String) : Except String Text := do
  validateText value "systemd path"
  return value.toUTF8.toList.flatMap pathByte

/-- `systemd_atom`. -/
def systemdAtom (value : String) : Text := replaceChar '%' ['%', '%'] value.toList

/-- A line `key=value`. -/
def directive (key : String) (value : Text) : Text := key.toList ++ '=' :: value

/-- The lines of the `format!` text before the user. -/
def linesBefore (description : Text) : List Text :=
  ["[Unit]".toList,
    directive "Description" description,
    directive "After" "network-online.target".toList,
    directive "Wants" "network-online.target".toList,
    [],
    "[Service]".toList,
    directive "Type" "simple".toList]

/-- The lines after the working directory. -/
def linesAfter (arguments timeoutSecs wantedBy : Text) : List Text :=
  [directive "ExecStart" arguments,
    directive "Restart" "on-failure".toList,
    directive "RestartSec" "2".toList,
    directive "KillSignal" "SIGTERM".toList,
    directive "TimeoutStopSec" timeoutSecs,
    [],
    "[Install]".toList,
    directive "WantedBy" wantedBy]

/-- The lines of the `format!` text in `systemd_unit`. -/
def unitLines (description workingDirectory arguments timeoutSecs wantedBy : Text)
    (user : Option Text) : List Text :=
  linesBefore description ++ (user.map (directive "User")).toList
    ++ directive "WorkingDirectory" workingDirectory :: linesAfter arguments timeoutSecs wantedBy

/-- Lines with their ends. -/
def unlines (lines : List Text) : Text := lines.flatMap (· ++ ['\n'])

/-- The instance id in `Description`. -/
def oneLine (instanceId : String) : Text :=
  instanceId.toList.map fun c => if c = '\n' ∨ c = '\r' then ' ' else c

/-- `systemd_unit`. -/
def systemdUnit (config : Sections) (launch : DaemonLaunchOptions) (scope : DaemonScope)
    (serviceUser : Option String) : Except String Text := do
  let values ← launchProgramArguments launch
  let arguments ← values.mapM systemdQuote
  let homeDir ← osString launch.homeDir "working directory"
  let workingDirectory ← systemdPath homeDir
  let wantedBy := if scope = .user then "default.target" else "multi-user.target"
  -- whole seconds, rounded up
  let timeoutSecs := max ((config.core.shutdownTimeoutMs + 999) / 1000) 1
  return unlines (unitLines
    ("Mutsuki Service (".toList ++ oneLine config.service.instanceId ++ [')'])
    workingDirectory ([' '].intercalate arguments) (toString timeoutSecs).toList wantedBy.toList
    (serviceUser.map systemdAtom))

/-! ## Reading -/

/-- What systemd knows beside the unit: the environment, in which an unset
    variable is empty, and the specifiers. -/
structure Manager where
  environment : Text → Text
  specifier : Char → Text

/-- The lines of a text, without their ends. -/
def lines (text : Text) : List Text :=
  (LineSplit.splitAfter '\n' text).map (·.filter (· ≠ '\n'))

/-- Lines that end with a backslash are continued, with a blank in its place. -/
def joinContinued : Text → List Text → List Text
  | pending, [] => if pending = [] then [] else [pending]
  | pending, line :: rest =>
      if line.getLast? = some '\\' then joinContinued (pending ++ line.dropLast ++ [' ']) rest
      else (pending ++ line) :: joinContinued [] rest

/-- `WHITESPACE` within a line. -/
def isBlank (c : Char) : Bool := c = ' ' || c = '\t'

/-- The directive in a line; comments, section headers and empty lines have none. -/
def readDirective (line : Text) : Option (String × Text) :=
  let line := line.dropWhile isBlank
  match line with
  | [] => none
  | c :: _ =>
      if c ∈ ['#', ';', '['] ∨ '=' ∉ line then none
      else
        let key := (line.takeWhile (· ≠ '=')).rdropWhile isBlank
        let value := (line.dropWhile (· ≠ '=')).drop 1
        some (String.ofList key, value.dropWhile isBlank)

/-- The directives of a unit, in their order. -/
def readUnit (text : Text) : List (String × Text) :=
  (joinContinued [] (lines text)).filterMap readDirective

/-- `%%`, and the specifiers. -/
def specifierAt (manager : Manager) : Text → Option (Text × Nat)
  | '%' :: '%' :: _ => some (['%'], 1)
  | '%' :: c :: _ => some (manager.specifier c, 1)
  | _ => none

/-- A name of a variable. -/
def isName (name : Text) : Bool :=
  !name.isEmpty && name.all (fun c => c.isAlphanum || c == '_') && !name.head?.any Char.isDigit

/-- The name before the first closing brace. -/
def bracedName (rest : Text) : Option Text :=
  let name := rest.takeWhile (· ≠ '}')
  if isName name = true ∧ name.length < rest.length then some name else none

/-- `$$`, and `${NAME}`. -/
def variableAt (manager : Manager) : Text → Option (Text × Nat)
  | '$' :: '$' :: _ => some (['$'], 1)
  | '$' :: '{' :: rest =>
      (bracedName rest).map fun name => (manager.environment name, name.length + 2)
  | _ => none

/-- The arguments a word stands for: several or none where it is `$NAME`. -/
def expandWord (manager : Manager) (word : Text) : List Text :=
  let inner := [TextReplace.replaceFrom (variableAt manager) 0 word]
  match word with
  | '$' :: name =>
      if isName name then (manager.environment name).splitOnP isBlank |>.filter (· ≠ []) else inner
  | _ => inner

/-- The arguments of the first `ExecStart`. -/
def execStart (manager : Manager) (text : Text) : Option (List Text) :=
  ((readUnit text).lookup "ExecStart").bind fun command =>
    (QuotedWords.readWords QuotedWords.doubleQuotes command).map fun words =>
      (words.map (TextReplace.replaceFrom (specifierAt manager) 0)).flatMap (expandWord manager)

/-- The value of the first `User`. -/
def unitUser (manager : Manager) (text : Text) : Option Text :=
  ((readUnit text).lookup "User").map (TextReplace.replaceFrom (specifierAt manager) 0)

/-! ## What was asked for -/

/-- The keys of the template, in its order. -/
def templateKeys (withUser : Bool) : List String :=
  ["Description", "After", "Wants", "Type"] ++ (if withUser then ["User"] else [])
    ++ ["WorkingDirectory", "ExecStart", "Restart", "RestartSec", "KillSignal", "TimeoutStopSec",
      "WantedBy"]

/-- The unit means the launch options and the user, whatever systemd knows
    beside it. -/
structure Means (launch : DaemonLaunchOptions) (user : Option String) (text : Text) : Prop where
  keys : (readUnit text).map Prod.fst = templateKeys user.isSome
  arguments : ∀ manager, (execStart manager text).map (·.map fun w => .from (String.ofList w))
    = some (programArguments launch)
  user : ∀ manager, (unitUser manager text).map String.ofList = user

/-- Nothing in the word refers to a variable. -/
structure Literal (word : Text) : Prop where
  dollars : ¬ ['$', '$'] <:+: word
  braces : ∀ name, isName name = true → ¬ '$' :: '{' :: (name ++ ['}']) <:+: word
  whole : ∀ name, isName name = true → word ≠ '$' :: name

/-- The texts that the escaping helpers keep. -/
structure Unambiguous (launch : DaemonLaunchOptions) (user : Option String) : Prop where
  arguments : ∀ argument ∈ programArguments launch, ∀ text, String.fromUTF8? argument = some text →
    Literal text.toList
  user : ∀ name, user = some name → name.toList.getLast? ≠ some '\\'

/-! ## Accepted texts -/

/-- There is no control character in it. -/
def Clean (value : String) : Prop := ∀ c ∈ value.toList, isControl c = false

instance (value : String) : Decidable (Clean value) :=
  decidable_of_iff (value.toList.all fun c => !isControl c)
    (by simp only [Clean, List.all_eq_true, Bool.not_eq_true'])

theorem fromUTF8?_eq_some_iff {value : OsString} {text : String} :
    String.fromUTF8? value = some text ↔ value = .from text := by
  rw [String.fromUTF8?]
  constructor
  · intro h
    by_cases hvalid : value.IsValidUTF8
    · rw [dif_pos hvalid] at h
      rw [← Option.some.inj h]
      rfl
    · rw [dif_neg hvalid] at h
      cases h
  · rintro rfl
    exact dif_pos text.isValidUTF8

theorem OsString.from_inj {a b : String} : OsString.from a = OsString.from b ↔ a = b :=
  String.toByteArray_inj

theorem validateText_eq_ok_iff {value field : String} :
    validateText value field = .ok () ↔ Clean value := by
  rw [validateText]
  by_cases hany : value.toList.any isControl = true
  · rw [if_pos hany]
    obtain ⟨c, hc, hcontrol⟩ := List.any_eq_true.mp hany
    exact iff_of_false nofun fun h => absurd hcontrol (Bool.eq_false_iff.mp (h c hc))
  · rw [if_neg hany]
    refine iff_of_true rfl fun c hc => Bool.eq_false_iff.mpr fun hcontrol => hany ?_
    exact List.any_eq_true.mpr ⟨c, hc, hcontrol⟩

theorem osString_eq_ok_iff {value : OsString} {field text : String} :
    osString value field = .ok text ↔ value = .from text ∧ Clean text := by
  rw [osString, ← fromUTF8?_eq_some_iff]
  cases hdecoded : String.fromUTF8? value with
  | none =>
      constructor
      · intro h
        cases h
      · rintro ⟨hsome, -⟩
        cases hsome
  | some decoded =>
      rw [← @validateText_eq_ok_iff _ field, Option.some.injEq]
      constructor
      · intro h
        obtain ⟨_, hvalid, htext⟩ := bind_eq_ok_iff.mp h
        cases htext
        exact ⟨rfl, hvalid⟩
      · rintro ⟨rfl, hvalid⟩
        exact bind_eq_ok_iff.mpr ⟨(), hvalid, rfl⟩

/-- The arguments as texts, when all are accepted. -/
theorem launchProgramArguments_ok {launch : DaemonLaunchOptions} {values : List String}
    (h : launchProgramArguments launch = .ok values) :
    programArguments launch = values.map .from ∧ ∀ value ∈ values, Clean value := by
  have hall := mapM_eq_ok_iff.mp h
  clear h
  generalize programArguments launch = arguments at hall
  induction hall with
  | nil => exact ⟨rfl, List.forall_mem_nil _⟩
  | cons hvalue _ ih =>
      obtain ⟨hfrom, hclean⟩ := osString_eq_ok_iff.mp hvalue
      exact ⟨congrArg₂ List.cons hfrom ih.1, List.forall_mem_cons.mpr ⟨hclean, ih.2⟩⟩

/-! ## Quoting -/

/-- `%` doubled, as two of the helpers do. -/
def percentDoubled (text : Text) : Text := replaceChar '%' ['%', '%'] text

@[simp] theorem replaceChar_cons (old : Char) (new : Text) (c : Char) (text : Text) :
    replaceChar old new (c :: text) = (if c = old then new else [c]) ++ replaceChar old new text :=
  rfl

theorem replaceChar_append (old : Char) (new a b : Text) :
    replaceChar old new (a ++ b) = replaceChar old new a ++ replaceChar old new b :=
  List.flatMap_append

/-- Backslashes first and quotation marks second is one escape. -/
theorem replaceChar_replaceChar (text : Text) :
    replaceChar '"' ['\\', '"'] (replaceChar '\\' ['\\', '\\'] text)
      = QuotedWords.escape QuotedWords.doubleQuotes text := by
  induction text with
  | nil => rfl
  | cons c text ih =>
      rw [replaceChar_cons, replaceChar_append, ih, QuotedWords.escape_cons]
      congr 1
      by_cases hbackslash : c = '\\'
      · rw [hbackslash]
        rfl
      · by_cases hmark : c = '"'
        · rw [hmark]
          rfl
        · have hplain :
              ¬ (c = QuotedWords.doubleQuotes.mark ∨ c = QuotedWords.doubleQuotes.backslash) :=
            not_or.mpr ⟨hmark, hbackslash⟩
          rw [if_neg hbackslash, if_neg hplain, replaceChar_cons, if_neg hmark]
          rfl

theorem systemdQuote_eq_ok_iff {value : String} {text : Text} :
    systemdQuote value = .ok text ↔
      Clean value ∧
        text = QuotedWords.quote QuotedWords.doubleQuotes (percentDoubled value.toList) := by
  rw [systemdQuote, bind_eq_ok_iff, ← @validateText_eq_ok_iff _ "systemd argument",
    replaceChar_replaceChar]
  constructor
  · rintro ⟨_, hvalid, htext⟩
    exact ⟨hvalid, (Except.ok.inj htext).symm⟩
  · rintro ⟨hvalid, rfl⟩
    exact ⟨(), hvalid, rfl⟩

/-- Quoted values with blanks between them are quoted words. -/
theorem intercalate_quote (words : List Text) :
    [' '].intercalate (words.map (QuotedWords.quote QuotedWords.doubleQuotes))
      = QuotedWords.writeWords QuotedWords.doubleQuotes words := by
  induction words with
  | nil => rfl
  | cons word words ih =>
      cases words with
      | nil => exact List.append_nil _
      | cons next words =>
          rw [QuotedWords.writeWords, ← ih]
          rfl

/-- The arguments as they stand in `ExecStart`. -/
def commandLine (values : List String) : Text :=
  QuotedWords.writeWords QuotedWords.doubleQuotes (values.map fun value => percentDoubled value.toList)

theorem quoted_arguments {values : List String} {quoted : List Text}
    (h : values.mapM systemdQuote = .ok quoted) :
    [' '].intercalate quoted = commandLine values := by
  have hquoted : quoted = (values.map fun value => percentDoubled value.toList).map
      (QuotedWords.quote QuotedWords.doubleQuotes) := by
    have hall := mapM_eq_ok_iff.mp h
    clear h
    induction hall with
    | nil => rfl
    | cons hvalue _ ih => exact congrArg₂ List.cons (systemdQuote_eq_ok_iff.mp hvalue).2 ih
  rw [hquoted, intercalate_quote, commandLine]

theorem specifierAt_of_ne (manager : Manager) {c : Char} (h : c ≠ '%') (text : Text) :
    specifierAt manager (c :: text) = none := by
  unfold specifierAt
  split
  · rename_i heq
    exact absurd (List.cons.inj heq).1 h
  · rename_i heq
    exact absurd (List.cons.inj heq).1 h
  · rfl

/-- Doubled `%` are read as `%`, whatever the specifiers. -/
theorem specifiers_percentDoubled (manager : Manager) (text : Text) :
    TextReplace.replaceFrom (specifierAt manager) 0 (percentDoubled text) = text := by
  induction text with
  | nil => rfl
  | cons c text ih =>
      rw [percentDoubled, replaceChar_cons]
      by_cases hpercent : c = '%'
      · have hfound :
          specifierAt manager ('%' :: '%' :: percentDoubled text) = some (['%'], 1) := rfl
        rw [if_pos hpercent, hpercent, List.cons_append, List.singleton_append, ← percentDoubled,
          TextReplace.replaceFrom_of_some hfound, TextReplace.replaceFrom_succ, ih,
          List.singleton_append]
      · rw [if_neg hpercent, List.singleton_append, ← percentDoubled,
          TextReplace.replaceFrom_of_none (specifierAt_of_ne manager hpercent _), ih]

/-! ## Words -/

theorem isName_not_mem {name : Text} (h : isName name = true) : '}' ∉ name := by
  intro hmem
  simp only [isName, Bool.and_eq_true, List.all_eq_true] at h
  exact absurd (h.1.2 '}' hmem) (by decide)

theorem bracedName_eq_some_iff {rest name : Text} :
    bracedName rest = some name ↔ isName name = true ∧ name ++ ['}'] <+: rest := by
  simp only [bracedName, Option.ite_none_right_eq_some, Option.some.injEq]
  constructor
  · rintro ⟨⟨hname, hlt⟩, rfl⟩
    refine ⟨hname, ?_⟩
    have happend := List.takeWhile_append_dropWhile (p := (· ≠ '}')) (l := rest)
    cases hdrop : rest.dropWhile (· ≠ '}') with
    | nil =>
        rw [hdrop, List.append_nil] at happend
        exact absurd (congrArg List.length happend) (Nat.ne_of_lt hlt)
    | cons c tail =>
        have hnot := List.head?_dropWhile_not (· ≠ '}') rest
        rw [hdrop] at hnot happend
        obtain rfl : c = '}' := by simpa using hnot
        exact ⟨tail, by rw [List.append_assoc]; exact happend⟩
  · rintro ⟨hname, tail, rfl⟩
    have htake : (name ++ ['}'] ++ tail).takeWhile (· ≠ '}') = name := by
      have hopen : ∀ c ∈ name, decide (c ≠ '}') = true := by
        intro c hc
        refine decide_eq_true ?_
        rintro rfl
        exact isName_not_mem hname hc
      rw [List.append_assoc, List.takeWhile_append_of_pos hopen]
      exact List.append_nil name
    rw [htake]
    refine ⟨⟨hname, ?_⟩, rfl⟩
    rw [List.length_append, List.length_append]
    exact Nat.lt_of_lt_of_le (Nat.lt_succ_self _) (Nat.le_add_right _ _)

/-- What `variableAt` finds is `$$` or `${NAME}`. -/
theorem variableAt_eq_none_iff {manager : Manager} {rest : Text} :
    variableAt manager rest = none ↔
      ¬ ['$', '$'] <+: rest ∧
        ∀ name, isName name = true → ¬ '$' :: '{' :: (name ++ ['}']) <+: rest := by
  unfold variableAt
  split
  · rename_i tail
    exact iff_of_false nofun fun h => h.1 ⟨tail, rfl⟩
  · rename_i tail
    rw [Option.map_eq_none_iff, Option.eq_none_iff_forall_ne_some]
    constructor
    · intro hnone
      refine ⟨fun h => ?_, fun name hname hbraces => hnone name ?_⟩
      · obtain ⟨_, hrest⟩ := h
        exact nomatch hrest
      · exact bracedName_eq_some_iff.mpr
          ⟨hname, (List.cons_prefix_cons.mp (List.cons_prefix_cons.mp hbraces).2).2⟩
    · rintro ⟨-, hbraces⟩ name hsome
      obtain ⟨hname, htail⟩ := bracedName_eq_some_iff.mp hsome
      exact hbraces name hname
        (List.cons_prefix_cons.mpr ⟨rfl, List.cons_prefix_cons.mpr ⟨rfl, htail⟩⟩)
  · rename_i hdollars hbraces
    refine iff_of_true rfl ⟨?_, ?_⟩
    · rintro ⟨tail, rfl⟩
      exact hdollars tail rfl
    · rintro name - ⟨tail, rfl⟩
      exact hbraces (name ++ ['}'] ++ tail) rfl

/-- Nothing is found anywhere in a word without `$$` and `${NAME}`. -/
theorem variableAt_suffixes_iff {manager : Manager} {word : Text} :
    (∀ rest, rest <:+ word → variableAt manager rest = none) ↔
      ¬ ['$', '$'] <:+: word ∧
        ∀ name, isName name = true → ¬ '$' :: '{' :: (name ++ ['}']) <:+: word := by
  constructor
  · intro hnone
    constructor
    · intro hdollars
      obtain ⟨rest, hstart, hsuffix⟩ := List.infix_iff_prefix_suffix.mp hdollars
      exact (variableAt_eq_none_iff.mp (hnone rest hsuffix)).1 hstart
    · intro name hname hbraces
      obtain ⟨rest, hstart, hsuffix⟩ := List.infix_iff_prefix_suffix.mp hbraces
      exact (variableAt_eq_none_iff.mp (hnone rest hsuffix)).2 name hname hstart
  · rintro ⟨hdollars, hbraces⟩ rest hsuffix
    refine variableAt_eq_none_iff.mpr ⟨fun hstart => ?_, fun name hname hstart => ?_⟩
    · exact hdollars (hstart.isInfix.trans hsuffix.isInfix)
    · exact hbraces name hname (hstart.isInfix.trans hsuffix.isInfix)

/-- The environment in which every variable is unset. -/
def emptyManager : Manager := ⟨fun _ => [], fun _ => []⟩

theorem shrinks_emptyManager : TextReplace.Shrinks (variableAt emptyManager) := by
  intro c text written covered hfound
  unfold variableAt at hfound
  split at hfound
  · rename_i heq
    obtain ⟨-, rfl⟩ := List.cons.inj heq
    obtain ⟨rfl, rfl⟩ := Prod.mk.inj (Option.some.inj hfound)
    exact ⟨Nat.le_refl 1, Nat.le_add_left 1 _⟩
  · rename_i heq
    obtain ⟨-, rfl⟩ := List.cons.inj heq
    obtain ⟨name, hname, hpair⟩ := Option.map_eq_some_iff.mp hfound
    obtain ⟨rfl, rfl⟩ := Prod.mk.inj hpair
    have hlen := (bracedName_eq_some_iff.mp hname).2.length_le
    rw [List.length_append, List.length_singleton] at hlen
    exact ⟨Nat.zero_le _, Nat.succ_le_succ hlen⟩
  · exact nomatch hfound

/-- A word without references is itself everywhere. -/
theorem expandWord_of_literal {word : Text} (h : Literal word) (manager : Manager) :
    expandWord manager word = [word] := by
  have hself : TextReplace.replaceFrom (variableAt manager) 0 word = word :=
    TextReplace.replaceFrom_eq_self (variableAt_suffixes_iff.mpr ⟨h.dollars, h.braces⟩)
  unfold expandWord
  split
  · rename_i name
    rw [if_neg fun hname => h.whole name hname rfl, hself]
  · rw [hself]

theorem length_expandWord_empty (word : Text) : (expandWord emptyManager word).length ≤ 1 := by
  unfold expandWord
  split
  · split
    · exact Nat.zero_le 1
    · exact Nat.le_refl 1
  · exact Nat.le_refl 1

/-- A word that is itself without an environment has no references. -/
theorem literal_of_expandWord {word : Text} (h : expandWord emptyManager word = [word]) :
    Literal word := by
  have hwhole : ∀ name, isName name = true → word ≠ '$' :: name := by
    rintro name hname rfl
    rw [expandWord, if_pos hname] at h
    exact nomatch h
  have hself : TextReplace.replaceFrom (variableAt emptyManager) 0 word = word := by
    unfold expandWord at h
    split at h
    · rename_i name
      rw [if_neg fun hname => hwhole name hname rfl] at h
      exact (List.cons.inj h).1
    · exact (List.cons.inj h).1
  obtain ⟨hdollars, hbraces⟩ := variableAt_suffixes_iff.mp
    ((TextReplace.replaceFrom_eq_self_iff shrinks_emptyManager rfl).mp hself)
  exact ⟨hdollars, hbraces, hwhole⟩

/-- Words are the arguments in every environment exactly if they hold no
    references. -/
theorem expandWords_iff {words : List Text} :
    (∀ manager, words.flatMap (expandWord manager) = words) ↔ ∀ word ∈ words, Literal word := by
  constructor
  · intro h word hword
    exact literal_of_expandWord
      ((TextReplace.flatMap_eq_self length_expandWord_empty).mp (h emptyManager) word hword)
  · intro h manager
    calc words.flatMap (expandWord manager)
        = words.flatMap fun word => [word] :=
          List.flatMap_congr fun word hword => expandWord_of_literal (h word hword) manager
      _ = words := List.flatMap_singleton' words

/-! ## Lines -/

/-- A text on one line. -/
def OnLine (text : Text) : Prop := '\n' ∉ text

/-- A line that is not continued. -/
structure Whole (line : Text) : Prop where
  onLine : OnLine line
  ends : line.getLast? ≠ some '\\'

/-- Lines without line ends in them are read as they were written. -/
theorem lines_unlines {ls : List Text} (h : ∀ line ∈ ls, OnLine line) :
    lines (unlines ls) = ls := by
  induction ls with
  | nil => rfl
  | cons line ls ih =>
      obtain ⟨hline, hls⟩ := List.forall_mem_cons.mp h
      have hkept : ∀ c ∈ line, decide (c ≠ '\n') = true := by
        intro c hc
        refine decide_eq_true ?_
        rintro rfl
        exact hline hc
      have hfilter : (line ++ ['\n']).filter (· ≠ '\n') = line := by
        rw [List.filter_append, List.filter_eq_self.mpr hkept]
        exact List.append_nil line
      rw [unlines, List.flatMap_cons, ← unlines, List.append_assoc, List.singleton_append, lines,
        LineSplit.splitAfter_line hline, List.map_cons, hfilter, ← lines, ih hls]

/-- Lines that are not continued stay as they are. -/
theorem joinContinued_append {ls : List Text} (h : ∀ line ∈ ls, line.getLast? ≠ some '\\')
    (rest : List Text) : joinContinued [] (ls ++ rest) = ls ++ joinContinued [] rest := by
  induction ls with
  | nil => rfl
  | cons line ls ih =>
      obtain ⟨hline, hls⟩ := List.forall_mem_cons.mp h
      rw [List.cons_append, joinContinued, if_neg hline, ih hls]
      rfl

/-- A continued line and the next one are one line. -/
theorem joinContinued_continued {line next : Text} (hline : line.getLast? = some '\\')
    (hnext : next.getLast? ≠ some '\\') (rest : List Text) :
    joinContinued [] (line :: next :: rest)
      = (line.dropLast ++ ' ' :: next) :: joinContinued [] rest := by
  rw [joinContinued, if_pos hline, joinContinued, if_neg hnext, List.nil_append, List.append_assoc,
    List.singleton_append]

/-- A key of the template. -/
structure PlainKey (key : String) : Prop where
  nonempty : key.toList ≠ []
  letters : ∀ c ∈ key.toList, c.isAlpha = true

instance (key : String) : Decidable (PlainKey key) :=
  decidable_of_iff (key.toList ≠ [] ∧ key.toList.all Char.isAlpha = true)
    ⟨fun h => ⟨h.1, List.all_eq_true.mp h.2⟩, fun h => ⟨h.nonempty, List.all_eq_true.mpr h.letters⟩⟩

theorem not_blank_of_isAlpha {c : Char} (h : c.isAlpha = true) : isBlank c = false := by
  refine Bool.eq_false_iff.mpr fun hblank => ?_
  simp only [isBlank, Bool.or_eq_true, decide_eq_true_eq] at hblank
  obtain rfl | rfl := hblank
  all_goals exact absurd h (by decide)

/-- A directive is read as its key and its value. -/
theorem readDirective_directive {key : String} (h : PlainKey key) (value : Text) :
    readDirective (directive key value) = some (key, value.dropWhile isBlank) := by
  have hopen : ∀ c ∈ key.toList, decide (c ≠ '=') = true := by
    intro c hc
    refine decide_eq_true ?_
    rintro rfl
    exact absurd (h.letters '=' hc) (by decide)
  have htake : (directive key value).takeWhile (· ≠ '=') = key.toList := by
    rw [directive, List.takeWhile_append_of_pos hopen]
    exact List.append_nil _
  have hdrop : (directive key value).dropWhile (· ≠ '=') = '=' :: value := by
    rw [directive, List.dropWhile_append_of_pos hopen]
    rfl
  have hkey : key.toList.rdropWhile isBlank = key.toList :=
    List.rdropWhile_eq_self_iff.mpr fun hne => by
      rw [not_blank_of_isAlpha (h.letters _ (List.getLast_mem hne))]
      exact Bool.false_ne_true
  obtain ⟨c, cs, hcons⟩ := List.exists_cons_of_ne_nil h.nonempty
  have hc : c.isAlpha = true := h.letters c (by rw [hcons]; exact List.mem_cons_self)
  have hline : directive key value = c :: (cs ++ '=' :: value) := by
    rw [directive, hcons, List.cons_append]
  have hstart : (directive key value).dropWhile isBlank = directive key value := by
    rw [hline, List.dropWhile_cons_of_neg]
    rw [not_blank_of_isAlpha hc]
    exact Bool.false_ne_true
  have hread : ¬ (c ∈ ['#', ';', '['] ∨ '=' ∉ directive key value) := by
    rintro (hspecial | hequals)
    · simp only [List.mem_cons, List.not_mem_nil, or_false] at hspecial
      obtain rfl | rfl | rfl := hspecial
      all_goals exact absurd hc (by decide)
    · exact hequals (List.mem_append_right _ List.mem_cons_self)
  unfold readDirective
  simp only [hstart]
  split
  · rename_i hnil
    rw [hline] at hnil
    exact nomatch hnil
  · rename_i c' cs' hcons'
    obtain ⟨rfl, -⟩ := List.cons.inj (hline.symm.trans hcons')
    rw [if_neg hread, htake, hdrop, hkey, String.ofList_toList]
    rfl

/-! ## The template -/

theorem getLast?_directive (key : String) (value : Text) :
    (directive key value).getLast? = some (value.getLast?.getD '=') := by
  rw [directive, List.getLast?_append, List.getLast?_cons]
  rfl

theorem onLine_directive {key : String} (hkey : PlainKey key) {value : Text}
    (hvalue : OnLine value) : OnLine (directive key value) := by
  intro hmem
  obtain hmem | hmem := List.mem_append.mp hmem
  · exact absurd (hkey.letters _ hmem) (by decide)
  · obtain hmem | hmem := List.mem_cons.mp hmem
    · exact absurd hmem (by decide)
    · exact hvalue hmem

theorem whole_directive {key : String} (hkey : PlainKey key) {value : Text} (hvalue : Whole value) :
    Whole (directive key value) := by
  refine ⟨onLine_directive hkey hvalue.onLine, ?_⟩
  rw [getLast?_directive]
  cases hlast : value.getLast? with
  | none => decide
  | some c => exact fun heq => hvalue.ends (hlast.trans heq)

instance (line : Text) : Decidable (Whole line) :=
  decidable_of_iff ('\n' ∉ line ∧ line.getLast? ≠ some '\\')
    ⟨fun h => ⟨h.1, h.2⟩, fun h => ⟨h.onLine, h.ends⟩⟩

theorem whole_linesBefore {description : Text} (h : Whole description) :
    ∀ line ∈ linesBefore description, Whole line := by
  simp only [linesBefore, List.forall_mem_cons]
  exact ⟨by decide, whole_directive (by decide) h, by decide, by decide, by decide, by decide,
    by decide, List.forall_mem_nil _⟩

theorem whole_linesAfter {arguments timeoutSecs wantedBy : Text} (harguments : Whole arguments)
    (htimeout : Whole timeoutSecs) (hwanted : Whole wantedBy) :
    ∀ line ∈ linesAfter arguments timeoutSecs wantedBy, Whole line := by
  simp only [linesAfter, List.forall_mem_cons]
  exact ⟨whole_directive (by decide) harguments, by decide, by decide, by decide,
    whole_directive (by decide) htimeout, by decide, by decide,
    whole_directive (by decide) hwanted, List.forall_mem_nil _⟩

/-- The directives before the user. -/
theorem readDirective_linesBefore (description : Text) :
    (linesBefore description).filterMap readDirective =
      [("Description", description.dropWhile isBlank), ("After", "network-online.target".toList),
        ("Wants", "network-online.target".toList), ("Type", "simple".toList)] := by
  simp (disch := decide) only [linesBefore, List.filterMap_cons, readDirective_directive]
  rfl

/-- The directives after the working directory. -/
theorem readDirective_linesAfter (arguments timeoutSecs wantedBy : Text) :
    (linesAfter arguments timeoutSecs wantedBy).filterMap readDirective =
      [("ExecStart", arguments.dropWhile isBlank), ("Restart", "on-failure".toList),
        ("RestartSec", "2".toList), ("KillSignal", "SIGTERM".toList),
        ("TimeoutStopSec", timeoutSecs.dropWhile isBlank),
        ("WantedBy", wantedBy.dropWhile isBlank)] := by
  simp (disch := decide) only [linesAfter, List.filterMap_cons, readDirective_directive]
  rfl

/-- The parts of the text other than the user are on lines of their own. -/
structure WholeParts (description workingDirectory arguments timeoutSecs wantedBy : Text) :
    Prop where
  description : Whole description
  workingDirectory : Whole workingDirectory
  arguments : Whole arguments
  timeoutSecs : Whole timeoutSecs
  wantedBy : Whole wantedBy

section Template

variable {description workingDirectory arguments timeoutSecs wantedBy : Text}

/-- The directives other than the user and the working directory. -/
def fieldsAround (description arguments timeoutSecs wantedBy : Text)
    (middle : List (String × Text)) : List (String × Text) :=
  (linesBefore description).filterMap readDirective ++ middle
    ++ (linesAfter arguments timeoutSecs wantedBy).filterMap readDirective

theorem readUnit_unitLines
    (h : WholeParts description workingDirectory arguments timeoutSecs wantedBy)
    {user : Option Text} (huser : ∀ name, user = some name → Whole name) :
    readUnit (unlines (unitLines description workingDirectory arguments timeoutSecs wantedBy user))
      = fieldsAround description arguments timeoutSecs wantedBy
        ((user.map fun name => ("User", name.dropWhile isBlank)).toList
          ++ [("WorkingDirectory", workingDirectory.dropWhile isBlank)]) := by
  have hlines : ∀ line ∈ unitLines description workingDirectory arguments timeoutSecs wantedBy user,
      Whole line := by
    intro line hline
    obtain hline | hline := List.mem_append.mp hline
    · obtain hline | hline := List.mem_append.mp hline
      · exact whole_linesBefore h.description line hline
      · obtain ⟨name, hname, rfl⟩ := Option.map_eq_some_iff.mp (Option.mem_toList.mp hline)
        exact whole_directive (by decide) (huser name hname)
    · obtain rfl | hline := List.mem_cons.mp hline
      · exact whole_directive (by decide) h.workingDirectory
      · exact whole_linesAfter h.arguments h.timeoutSecs h.wantedBy line hline
  have hjoin := joinContinued_append (fun line hline => (hlines line hline).ends) []
  rw [List.append_nil] at hjoin
  rw [readUnit, lines_unlines fun line hline => (hlines line hline).onLine, hjoin,
    show joinContinued [] [] = [] from rfl, List.append_nil, unitLines, List.filterMap_append,
    List.filterMap_append, List.filterMap_cons, readDirective_directive (by decide), fieldsAround]
  cases user with
  | none =>
      rw [Option.map_none, Option.map_none, Option.toList_none, List.filterMap_nil,
        List.append_assoc, List.append_assoc]
      rfl
  | some name =>
      rw [Option.map_some, Option.map_some, Option.toList_some, Option.toList_some,
        List.filterMap_cons, readDirective_directive (by decide), List.filterMap_nil,
        List.append_assoc, List.append_assoc]
      rfl

/-- A user that ends with a backslash takes the next line with it. -/
theorem readUnit_continued
    (h : WholeParts description workingDirectory arguments timeoutSecs wantedBy)
    {name : Text} (honLine : OnLine name) (hlast : name.getLast? = some '\\') :
    ∃ value, readUnit (unlines (unitLines description workingDirectory arguments timeoutSecs wantedBy
        (some name))) = fieldsAround description arguments timeoutSecs wantedBy [("User", value)] := by
  have hbefore := whole_linesBefore h.description
  have hafter := whole_linesAfter h.arguments h.timeoutSecs h.wantedBy
  have hdirectory : Whole (directive "WorkingDirectory" workingDirectory) :=
    whole_directive (by decide) h.workingDirectory
  have hlines : ∀ line ∈ unitLines description workingDirectory arguments timeoutSecs wantedBy
      (some name), OnLine line := by
    intro line hline
    obtain hline | hline := List.mem_append.mp hline
    · obtain hline | hline := List.mem_append.mp hline
      · exact (hbefore line hline).onLine
      · rw [List.mem_singleton.mp hline]
        exact onLine_directive (by decide) honLine
    · obtain rfl | hline := List.mem_cons.mp hline
      · exact hdirectory.onLine
      · exact (hafter line hline).onLine
  have hcontinued : (directive "User" name).getLast? = some '\\' := by
    rw [getLast?_directive, hlast]
    rfl
  have hne : name ≠ [] := fun hnil => by
    rw [hnil] at hlast
    exact nomatch hlast
  have huser : (directive "User" name).dropLast = directive "User" name.dropLast := by
    rw [directive, List.dropLast_append_of_ne_nil (List.cons_ne_nil _ _),
      List.dropLast_cons_of_ne_nil hne, directive]
  have hjoin := joinContinued_append (fun line hline => (hafter line hline).ends) []
  rw [List.append_nil] at hjoin
  refine ⟨(name.dropLast ++ ' ' :: directive "WorkingDirectory" workingDirectory).dropWhile isBlank,
    ?_⟩
  rw [readUnit, lines_unlines hlines, unitLines, Option.map_some, Option.toList_some,
    List.append_assoc, joinContinued_append fun line hline => (hbefore line hline).ends,
    List.singleton_append, joinContinued_continued hcontinued hdirectory.ends, hjoin,
    show joinContinued [] [] = [] from rfl, List.append_nil, huser, List.filterMap_append,
    List.filterMap_cons, directive, List.append_assoc, List.cons_append, ← directive,
    readDirective_directive (by decide), fieldsAround, List.append_assoc]
  rfl

end Template

/-! ## The parts -/

theorem Whole.append {a b : Text} (ha : Whole a) (hb : Whole b) : Whole (a ++ b) := by
  refine ⟨fun hmem => ?_, ?_⟩
  · obtain hmem | hmem := List.mem_append.mp hmem
    · exact ha.onLine hmem
    · exact hb.onLine hmem
  · rw [List.getLast?_append]
    cases hlast : b.getLast? with
    | none => exact ha.ends
    | some c => exact fun heq => hb.ends (hlast.trans heq)

theorem onLine_of_clean {value : String} (h : Clean value) : OnLine value.toList :=
  fun hmem => absurd (h '\n' hmem) (by decide)

theorem mem_percentDoubled {c : Char} {text : Text} (h : c ∈ percentDoubled text) : c ∈ text := by
  obtain ⟨d, hd, hc⟩ := List.mem_flatMap.mp h
  split at hc
  · rename_i hpercent
    simp only [List.mem_cons, List.not_mem_nil, or_false, or_self] at hc
    rwa [hc, ← hpercent]
  · rwa [List.mem_singleton.mp hc]

theorem head?_percentDoubled (text : Text) : (percentDoubled text).head? = text.head? := by
  cases text with
  | nil => rfl
  | cons c text =>
      rw [percentDoubled, replaceChar_cons]
      by_cases hpercent : c = '%'
      · rw [if_pos hpercent, hpercent]
        rfl
      · rw [if_neg hpercent]
        rfl

theorem getLast?_percentDoubled (text : Text) :
    (percentDoubled text).getLast? = text.getLast? := by
  induction text with
  | nil => rfl
  | cons c text ih =>
      rw [percentDoubled, replaceChar_cons, ← percentDoubled, List.getLast?_append, ih,
        List.getLast?_cons]
      cases text.getLast? with
      | some d => rfl
      | none =>
          by_cases hpercent : c = '%'
          · rw [if_pos hpercent, hpercent]
            rfl
          · rw [if_neg hpercent]
            rfl

theorem whole_description (instanceId : String) :
    Whole ("Mutsuki Service (".toList ++ oneLine instanceId ++ [')']) := by
  refine ⟨fun hmem => ?_, ?_⟩
  · obtain hmem | hmem := List.mem_append.mp hmem
    · obtain hmem | hmem := List.mem_append.mp hmem
      · exact absurd hmem (by decide)
      · obtain ⟨c, -, hc⟩ := List.mem_map.mp hmem
        by_cases hend : c = '\n' ∨ c = '\r'
        · rw [if_pos hend] at hc
          exact absurd hc (by decide)
        · rw [if_neg hend] at hc
          exact hend (Or.inl hc)
    · exact absurd hmem (by decide)
  · rw [List.getLast?_concat]
    decide

theorem whole_pathByte (byte : UInt8) : Whole (pathByte byte) := by
  have hall : ∀ n < 256, Whole (pathByte (UInt8.ofNat n)) := by decide +kernel
  have h := hall byte.toNat byte.toNat_lt
  rwa [UInt8.ofNat_toNat] at h

theorem whole_systemdPath {value : String} {text : Text} (h : systemdPath value = .ok text) :
    Whole text := by
  obtain ⟨_, -, htext⟩ := bind_eq_ok_iff.mp h
  rw [← Except.ok.inj htext]
  induction value.toUTF8.toList with
  | nil => decide
  | cons byte bytes ih => exact (whole_pathByte byte).append ih

theorem whole_decimal (n : Nat) : Whole (toString n).toList := by
  have hdigit : ∀ c ∈ (toString n).toList, c.isDigit = true := by
    intro c hc
    rw [Nat.toString_eq_repr, Nat.toList_repr] at hc
    exact Nat.isDigit_of_mem_toDigits (by decide) (by decide) hc
  exact ⟨fun hmem => absurd (hdigit _ hmem) (by decide),
    fun hlast => absurd (hdigit _ (List.mem_of_getLast? hlast)) (by decide)⟩

theorem whole_arguments {values : List String} (hne : values ≠ [])
    (hclean : ∀ value ∈ values, Clean value) : Whole (commandLine values) := by
  constructor
  · intro hmem
    obtain hc | hc | hc | ⟨word, hword, hc⟩ :=
      QuotedWords.mem_writeWords QuotedWords.doubleQuotes hmem
    · exact absurd hc (by decide)
    · exact absurd hc (by decide)
    · exact absurd hc (by decide)
    · obtain ⟨value, hvalue, rfl⟩ := List.mem_map.mp hword
      exact onLine_of_clean (hclean value hvalue) (mem_percentDoubled hc)
  · rw [commandLine, QuotedWords.getLast?_writeWords QuotedWords.doubleQuotes (by simpa using hne)]
    decide

/-- What an accepted unit is made of. -/
theorem systemdUnit_ok {config : Sections} {launch : DaemonLaunchOptions} {scope : DaemonScope}
    {user : Option String} {text : Text} (h : systemdUnit config launch scope user = .ok text) :
    ∃ (values : List String) (description workingDirectory timeoutSecs wantedBy : Text),
      programArguments launch = values.map .from ∧
        WholeParts description workingDirectory (commandLine values) timeoutSecs wantedBy ∧
        text = unlines (unitLines description workingDirectory (commandLine values) timeoutSecs
          wantedBy (user.map systemdAtom)) := by
  obtain ⟨values, hvalues, h⟩ := bind_eq_ok_iff.mp h
  obtain ⟨quoted, hquoted, h⟩ := bind_eq_ok_iff.mp h
  obtain ⟨homeDir, -, h⟩ := bind_eq_ok_iff.mp h
  obtain ⟨workingDirectory, hdirectory, h⟩ := bind_eq_ok_iff.mp h
  obtain ⟨hprogram, hclean⟩ := launchProgramArguments_ok hvalues
  have hne : values ≠ [] := by
    rintro rfl
    exact nomatch hprogram
  have hwanted : Whole
      (if scope = .user then "default.target" else "multi-user.target" : String).toList := by
    split
    · decide
    · decide
  have htext := (Except.ok.inj h).symm
  rw [quoted_arguments hquoted] at htext
  exact ⟨values, _, workingDirectory, _, _, hprogram, ⟨whole_description _,
    whole_systemdPath hdirectory, whole_arguments hne hclean, whole_decimal _, hwanted⟩, htext⟩

/-- What an accepted user is like. -/
theorem validateScope_ok {scope : DaemonScope} {serviceUser user : Option String}
    (h : validateScope scope serviceUser = .ok user) {name : String} (hname : user = some name) :
    Clean name ∧ ∀ c, name.toList.head? = some c → isWhitespace c = false := by
  rw [hname] at h
  cases scope with
  | user =>
      rw [validateScope] at h
      split at h
      · exact nomatch h
      · exact nomatch h
  | system =>
      rw [validateScope] at h
      split at h
      · exact nomatch h
      · rename_i given hgiven
        obtain ⟨_, hclean, h⟩ := bind_eq_ok_iff.mp h
        split at h
        · exact nomatch h
        obtain rfl : given = name := Option.some.inj (Except.ok.inj h)
        refine ⟨validateText_eq_ok_iff.mp hclean, fun c hc => ?_⟩
        obtain ⟨raw, -, htrim⟩ := Option.map_eq_some_iff.mp (Option.filter_eq_some_iff.mp hgiven).1
        rw [← htrim, trim, String.toList_ofList] at hc
        exact head?_trimmed hc

/-! ## The whole unit -/

section Unit

variable {description workingDirectory timeoutSecs wantedBy : Text} {values : List String}
  {user : Option String}

theorem keys_fieldsAround (arguments : Text) (middle : List (String × Text)) :
    (fieldsAround description arguments timeoutSecs wantedBy middle).map Prod.fst
      = ["Description", "After", "Wants", "Type"] ++ middle.map Prod.fst
        ++ ["ExecStart", "Restart", "RestartSec", "KillSignal", "TimeoutStopSec", "WantedBy"] := by
  rw [fieldsAround, List.map_append, List.map_append, readDirective_linesBefore,
    readDirective_linesAfter]
  rfl

/-- The command line is read as the words that were quoted. -/
theorem readWords_commandLine :
    QuotedWords.readWords QuotedWords.doubleQuotes ((commandLine values).dropWhile isBlank)
      = some (values.map fun value => percentDoubled value.toList) := by
  have hstart : (commandLine values).dropWhile isBlank = commandLine values := by
    cases values with
    | nil => rfl
    | cons value values =>
        cases values with
        | nil => rfl
        | cons next values => rfl
  rw [hstart, commandLine, QuotedWords.readWords_writeWords]

/-- An accepted user stands in the unit without a blank before it. -/
theorem userValue {name : String}
    (hhead : ∀ c, name.toList.head? = some c → isWhitespace c = false) :
    (systemdAtom name).dropWhile isBlank = percentDoubled name.toList := by
  rw [show systemdAtom name = percentDoubled name.toList from rfl]
  have hfirst := head?_percentDoubled name.toList
  cases hatom : percentDoubled name.toList with
  | nil => rfl
  | cons c rest =>
      rw [hatom] at hfirst
      have hspace : isWhitespace c = false := hhead c hfirst.symm
      refine List.dropWhile_cons_of_neg fun hblank => ?_
      simp only [isBlank, Bool.or_eq_true, decide_eq_true_eq] at hblank
      obtain rfl | rfl := hblank
      all_goals exact absurd hspace (by decide)

/-- How systemd reads the unit, if the user does not end with a backslash. -/
theorem readUnit_accepted
    (hparts : WholeParts description workingDirectory (commandLine values) timeoutSecs wantedBy)
    (hclean : ∀ name, user = some name → Clean name)
    (hhead : ∀ name, user = some name →
      ∀ c, name.toList.head? = some c → isWhitespace c = false)
    (hends : ∀ name, user = some name → name.toList.getLast? ≠ some '\\') :
    readUnit (unlines (unitLines description workingDirectory (commandLine values) timeoutSecs
        wantedBy (user.map systemdAtom)))
      = fieldsAround description (commandLine values) timeoutSecs wantedBy
        ((user.map fun name => ("User", percentDoubled name.toList)).toList
          ++ [("WorkingDirectory", workingDirectory.dropWhile isBlank)]) := by
  have hwhole : ∀ atom, user.map systemdAtom = some atom → Whole atom := by
    intro atom hatom
    obtain ⟨name, hname, rfl⟩ := Option.map_eq_some_iff.mp hatom
    refine ⟨fun hmem => onLine_of_clean (hclean name hname) (mem_percentDoubled hmem), ?_⟩
    rw [show systemdAtom name = percentDoubled name.toList from rfl, getLast?_percentDoubled]
    exact hends name hname
  rw [readUnit_unitLines hparts hwhole]
  cases user with
  | none => rfl
  | some name =>
      rw [Option.map_some, Option.map_some, Option.map_some, userValue (hhead name rfl)]

/-- A key stands before, in or after the middle. -/
theorem lookup_fieldsAround (arguments : Text) (middle : List (String × Text)) :
    (fieldsAround description arguments timeoutSecs wantedBy middle).lookup "ExecStart"
        = (middle.lookup "ExecStart").or (some (arguments.dropWhile isBlank)) ∧
      (fieldsAround description arguments timeoutSecs wantedBy middle).lookup "User"
        = middle.lookup "User" := by
  rw [fieldsAround, readDirective_linesBefore, readDirective_linesAfter, List.append_assoc,
    List.lookup_append, List.lookup_append, List.lookup_append, List.lookup_append]
  exact ⟨rfl, Option.or_none⟩

/-- The program that systemd starts. -/
theorem execStart_accepted {manager : Manager} {text : Text} {middle : List (String × Text)}
    (h : readUnit text = fieldsAround description (commandLine values) timeoutSecs wantedBy middle)
    (hmiddle : middle.lookup "ExecStart" = none) :
    execStart manager text = some ((values.map String.toList).flatMap (expandWord manager)) := by
  rw [execStart, h, (lookup_fieldsAround _ middle).1, hmiddle, Option.none_or, Option.bind_some,
    readWords_commandLine, Option.map_some, List.map_map]
  congr 2
  exact List.map_congr_left fun value _ => specifiers_percentDoubled manager value.toList

/-- The user that systemd starts it as. -/
theorem unitUser_accepted {manager : Manager} {text value : Text}
    (h : readUnit text = fieldsAround description (commandLine values) timeoutSecs wantedBy
      ((user.map fun name => ("User", percentDoubled name.toList)).toList
        ++ [("WorkingDirectory", value)])) :
    (unitUser manager text).map String.ofList = user := by
  rw [unitUser, h, (lookup_fieldsAround _ _).2]
  cases user with
  | none => rfl
  | some name =>
      have hread := specifiers_percentDoubled manager name.toList
      exact congrArg some ((congrArg String.ofList hread).trans String.ofList_toList)

/-- Words are the argument vector exactly if they are its texts. -/
theorem words_eq_iff {words : List Text} :
    (words.map fun w => OsString.from (String.ofList w)) = values.map .from ↔
      words = values.map String.toList := by
  constructor
  · intro h
    have hfrom : Function.Injective OsString.from := fun _ _ => OsString.from_inj.mp
    have htexts : words.map String.ofList = values :=
      (List.map_injective_iff.mpr hfrom) (by rw [List.map_map]; exact h)
    rw [← htexts, List.map_map]
    exact (List.map_id'' (fun _ => String.toList_ofList) words).symm
  · rintro rfl
    rw [List.map_map]
    exact List.map_congr_left fun value _ => congrArg OsString.from String.ofList_toList

/-- The condition on the arguments, said of their texts. -/
theorem literal_arguments_iff {launch : DaemonLaunchOptions}
    (hprogram : programArguments launch = values.map .from) :
    (∀ argument ∈ programArguments launch, ∀ text, String.fromUTF8? argument = some text →
      Literal text.toList) ↔ ∀ word ∈ values.map String.toList, Literal word := by
  rw [hprogram]
  constructor
  · intro h word hword
    obtain ⟨value, hvalue, rfl⟩ := List.mem_map.mp hword
    exact h _ (List.mem_map_of_mem hvalue) value (fromUTF8?_eq_some_iff.mpr rfl)
  · intro h argument hargument text htext
    obtain ⟨value, hvalue, rfl⟩ := List.mem_map.mp hargument
    obtain rfl : value = text := OsString.from_inj.mp (fromUTF8?_eq_some_iff.mp htext)
    exact h _ (List.mem_map_of_mem hvalue)

end Unit

section Meaning

variable {config : Sections} {launch : DaemonLaunchOptions} {scope : DaemonScope}
  {serviceUser user : Option String} {text : Text}

/-- An accepted unit is read in full if its user does not end with a backslash. -/
theorem Unambiguous.means (h : Unambiguous launch user)
    (hscope : validateScope scope serviceUser = .ok user)
    (hunit : systemdUnit config launch scope user = .ok text) : Means launch user text := by
  obtain ⟨values, description, workingDirectory, timeoutSecs, wantedBy, hprogram, hparts, rfl⟩ :=
    systemdUnit_ok hunit
  have hread := readUnit_accepted hparts (fun _ hname => (validateScope_ok hscope hname).1)
    (fun _ hname => (validateScope_ok hscope hname).2) h.user
  have hwords := expandWords_iff.mpr ((literal_arguments_iff hprogram).mp h.arguments)
  refine ⟨?_, fun manager => ?_, fun manager => unitUser_accepted hread⟩
  · rw [hread, keys_fieldsAround]
    cases user with
    | none => rfl
    | some name => rfl
  · rw [execStart_accepted hread (by cases user <;> rfl), Option.map_some, hwords manager, hprogram]
    exact congrArg some (words_eq_iff.mpr rfl)

/-- The unit of another user lacks the working directory. -/
theorem Means.user_ends (h : Means launch user text)
    (hscope : validateScope scope serviceUser = .ok user)
    (hunit : systemdUnit config launch scope user = .ok text) :
    ∀ name, user = some name → name.toList.getLast? ≠ some '\\' := by
  intro name hname hlast
  obtain ⟨values, description, workingDirectory, timeoutSecs, wantedBy, -, hparts, rfl⟩ :=
    systemdUnit_ok hunit
  have honLine : OnLine (systemdAtom name) := fun hmem =>
    onLine_of_clean (validateScope_ok hscope hname).1 (mem_percentDoubled hmem)
  obtain ⟨value, hread⟩ := readUnit_continued hparts honLine
    ((getLast?_percentDoubled name.toList).trans hlast)
  have hkeys := h.keys
  rw [hname, Option.map_some, hread, keys_fieldsAround] at hkeys
  exact absurd (congrArg List.length hkeys) (by simp [templateKeys])

theorem Means.unambiguous (h : Means launch user text)
    (hscope : validateScope scope serviceUser = .ok user)
    (hunit : systemdUnit config launch scope user = .ok text) : Unambiguous launch user := by
  have hends := h.user_ends hscope hunit
  obtain ⟨values, description, workingDirectory, timeoutSecs, wantedBy, hprogram, hparts, rfl⟩ :=
    systemdUnit_ok hunit
  have hread := readUnit_accepted hparts (fun _ hname => (validateScope_ok hscope hname).1)
    (fun _ hname => (validateScope_ok hscope hname).2) hends
  refine ⟨(literal_arguments_iff hprogram).mpr (expandWords_iff.mp fun manager => ?_), hends⟩
  have harguments := h.arguments manager
  rw [execStart_accepted hread (by cases user <;> rfl), Option.map_some, Option.some.injEq,
    hprogram] at harguments
  exact words_eq_iff.mp harguments

/-- **WHAT THE UNIT MEANS**: what was asked for, unless a `$` of an argument or a
    backslash at the end of the user has a meaning of its own. -/
theorem systemd_unit_means_iff (hscope : validateScope scope serviceUser = .ok user)
    (hunit : systemdUnit config launch scope user = .ok text) :
    Means launch user text ↔ Unambiguous launch user :=
  ⟨fun h => h.unambiguous hscope hunit, fun h => h.means hscope hunit⟩

/-- Arguments without control characters are accepted. -/
theorem exists_systemdUnit (config : Sections) (scope : DaemonScope) (user : Option String)
    {values : List String} {homeDir : String}
    (hprogram : programArguments launch = values.map .from)
    (hhome : launch.homeDir = .from homeDir)
    (hclean : ∀ value ∈ homeDir :: values, Clean value) :
    ∃ text, systemdUnit config launch scope user = .ok text := by
  obtain ⟨hhomeClean, hvalues⟩ := List.forall_mem_cons.mp hclean
  have harguments : launchProgramArguments launch = .ok values := by
    rw [launchProgramArguments, hprogram, mapM_eq_ok_iff, List.forall₂_map_left_iff,
      List.forall₂_same]
    exact fun value hvalue => osString_eq_ok_iff.mpr ⟨rfl, hvalues value hvalue⟩
  have hquoted : values.mapM systemdQuote = .ok (values.map fun value =>
      QuotedWords.quote QuotedWords.doubleQuotes (percentDoubled value.toList)) := by
    rw [mapM_eq_ok_iff, List.forall₂_map_right_iff, List.forall₂_same]
    exact fun value hvalue => systemdQuote_eq_ok_iff.mpr ⟨hvalues value hvalue, rfl⟩
  have hdirectory : osString launch.homeDir "working directory" = .ok homeDir :=
    osString_eq_ok_iff.mpr ⟨hhome, hhomeClean⟩
  have hpath : validateText homeDir "systemd path" = .ok () :=
    validateText_eq_ok_iff.mpr hhomeClean
  exact ⟨_, bind_eq_ok_iff.mpr ⟨_, harguments, bind_eq_ok_iff.mpr ⟨_, hquoted,
    bind_eq_ok_iff.mpr ⟨_, hdirectory, bind_eq_ok_iff.mpr ⟨_, bind_eq_ok_iff.mpr ⟨_, hpath, rfl⟩,
      rfl⟩⟩⟩⟩⟩

end Meaning

/-- A launch with a profile. -/
def demoLaunch (profile : String) : DaemonLaunchOptions :=
  ⟨.from "/opt/mutsuki/host", none, .from "/srv/mutsuki", profile⟩

/-- Its program arguments. -/
def demoValues (profile : String) : List String :=
  ["/opt/mutsuki/host", "--home", "/srv/mutsuki", "--profile", profile, "run"]

theorem programArguments_demo (profile : String) :
    programArguments (demoLaunch profile) = (demoValues profile).map .from := rfl

theorem demo_unit (scope : DaemonScope) (user : Option String) {profile : String}
    (h : Clean profile) :
    ∃ text, systemdUnit (ServiceLoad.defaultSections none) (demoLaunch profile) scope user
      = .ok text := by
  have hhome : (demoLaunch profile).homeDir = .from "/srv/mutsuki" := rfl
  refine exists_systemdUnit _ scope user (programArguments_demo profile) hhome ?_
  simp only [demoValues, List.forall_mem_cons]
  exact ⟨by decide, by decide, by decide, by decide, by decide, h, by decide, List.forall_mem_nil _⟩

/-- A word without `$`. -/
theorem literal_of_not_mem {word : Text} (h : '$' ∉ word) : Literal word :=
  ⟨fun hpart => h (hpart.subset List.mem_cons_self),
    fun _ _ hpart => h (hpart.subset List.mem_cons_self),
    fun _ _ heq => h (heq ▸ List.mem_cons_self)⟩

/-- A profile with quotation marks, backslashes and percent signs. -/
theorem systemd_unit_means_quoted :
    ∃ text, systemdUnit (ServiceLoad.defaultSections none) (demoLaunch "50% \"a\\b\"") .system
        (some "mutsuki") = .ok text ∧
      Means (demoLaunch "50% \"a\\b\"") (some "mutsuki") text := by
  have hscope : validateScope .system (some " mutsuki ") = .ok (some "mutsuki") := by
    decide
  obtain ⟨text, hunit⟩ := demo_unit .system (some "mutsuki")
    (show Clean "50% \"a\\b\"" by decide)
  refine ⟨text, hunit, (systemd_unit_means_iff hscope hunit).mpr ⟨?_, ?_⟩⟩
  · refine (literal_arguments_iff (programArguments_demo _)).mpr fun word hword => ?_
    simp only [demoValues, List.map_cons, List.map_nil, List.mem_cons, List.not_mem_nil,
      or_false] at hword
    obtain rfl | rfl | rfl | rfl | rfl | rfl := hword
    all_goals exact literal_of_not_mem (by decide)
  · intro name hname
    rw [← Option.some.inj hname]
    decide

/-- A profile with `$$` is started as another one, and a user that ends with a
    backslash is not read at all. -/
theorem systemd_unit_misread :
    (∃ text, systemdUnit (ServiceLoad.defaultSections none) (demoLaunch "a$$b") .user none = .ok text ∧
        ¬ Means (demoLaunch "a$$b") none text) ∧
      ∃ text, systemdUnit (ServiceLoad.defaultSections none) (demoLaunch "default") .system
          (some "svc\\") = .ok text ∧
        ¬ Means (demoLaunch "default") (some "svc\\") text := by
  constructor
  · have hscope : validateScope .user none = .ok none := rfl
    obtain ⟨text, hunit⟩ := demo_unit .user none
      (show Clean "a$$b" by decide)
    refine ⟨text, hunit, fun h => ?_⟩
    have hliteral := (literal_arguments_iff (programArguments_demo _)).mp
      (h.unambiguous hscope hunit).arguments "a$$b".toList (by simp [demoValues])
    exact hliteral.dollars (by decide)
  · have hscope : validateScope .system (some "svc\\") = .ok (some "svc\\") := by decide
    obtain ⟨text, hunit⟩ := demo_unit .system (some "svc\\")
      (show Clean "default" by decide)
    exact ⟨text, hunit, fun h => h.user_ends hscope hunit "svc\\" rfl (by decide)⟩

end ServiceDaemon
