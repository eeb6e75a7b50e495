import LispReader.Command
import LispReader.Proofs.View

/-!
# All or nothing

A command line that names a source has it read in stages: its bytes are
decoded, the text is cut into tokens, and unless tokens are asked for, trees
are built from them.  If every stage succeeds, the whole view is printed and
nothing else.  The first stage that fails is reported, and nothing of the
source is printed.  Main statement: `run_all_or_nothing`.
-/

namespace LispReader

namespace Text

/-- Bytes decode to a text exactly when the text is encoded by them. -/
theorem fromUTF8?_eq_some_iff (bytes : ByteArray) (text : String) :
    String.fromUTF8? bytes = some text ↔ text.toUTF8 = bytes := by
  unfold String.fromUTF8?
  constructor
  · intro decoded
    split at decoded
    · cases decoded
      rfl
    · cases decoded
  · intro encodes
    subst encodes
    exact dif_pos text.isValidUTF8

end Text

namespace Command

/-- Whether a command line asks for this view of the source at a path. -/
def Asks (arguments : List String) (view : View) (path : String) : Prop :=
  ∃ options, Request.parse? arguments = some (.run options) ∧
    options.file? = some path ∧ options.view = view

/-- Whether the source at a path holds these bytes.  A hyphen is standard
input. -/
def Holds (input : ByteArray) (directory : Directory) (path : String)
    (bytes : ByteArray) : Prop :=
  path = "-" ∧ input = bytes ∨ path ≠ "-" ∧ directory.read path = .ok bytes

/-- Whether this is what a view shows of all the bytes of a source. -/
def Shows (bytes : ByteArray) (view : View) (output : String) : Prop :=
  ∃ text : String, text.toUTF8 = bytes ∧ view.Shows text output

/-- Why a view shows nothing of a source: what the first stage that fails has
to say. -/
inductive Refuses (path : String) (bytes : ByteArray) : View → String → Prop
  | decoding {view : View} :
      (∀ text : String, text.toUTF8 ≠ bytes) →
      Refuses path bytes view ("failed to read " ++
        (if path = "-" then "stdin" else path) ++
        "\n\nCaused by:\n    stream did not contain valid UTF-8")
  | scanning {view : View} {text : String} {error : ReadError} :
      text.toUTF8 = bytes →
      tokenize text = .error error →
      Refuses path bytes view error.message
  | building {text : String} {tokens : List Token} {error : ReadError}
      {format : Format} :
      text.toUTF8 = bytes →
      tokenize text = .ok tokens →
      read tokens = .error error →
      Refuses path bytes (.trees format) error.message

/-- Of every source a view shows something or refuses it. -/
theorem exists_shows_or_refuses (path : String) (bytes : ByteArray)
    (view : View) :
    (∃ output, Shows bytes view output) ∨
      ∃ reason, Refuses path bytes view reason := by
  by_cases encoded : ∃ text : String, text.toUTF8 = bytes
  · obtain ⟨text, encodes⟩ := encoded
    cases rendered : view.render text with
    | ok output =>
        have shows := (view.render_eq_ok_iff text output).mp rendered
        exact .inl ⟨output, text, encodes, shows⟩
    | error error =>
        right
        cases scanned : tokenize text with
        | error reason => exact ⟨_, .scanning encodes scanned⟩
        | ok tokens =>
            cases view with
            | tokens =>
                rw [View.render, scanned] at rendered
                cases rendered
            | trees format =>
                cases built : read tokens with
                | error reason => exact ⟨_, .building encodes scanned built⟩
                | ok nodes =>
                    have parsed : parse text = .ok nodes := by
                      rw [parse, scanned]
                      exact built
                    rw [View.render, parsed] at rendered
                    cases rendered
  · have undecodable : ∀ text : String, text.toUTF8 ≠ bytes :=
      fun text encodes => encoded ⟨text, encodes⟩
    exact .inr ⟨_, .decoding undecodable⟩

theorem Shows.exists_tokens {bytes : ByteArray} {view : View} {output : String}
    (shows : Shows bytes view output) :
    ∃ listing, Shows bytes .tokens listing := by
  obtain ⟨text, encodes, shown⟩ := shows
  have ofParse {nodes : List Node} (parsed : parse text = .ok nodes) :
      ∃ listing, Shows bytes .tokens listing := by
    obtain ⟨tokens, scanned, -⟩ := (parse_eq_ok_iff _ _).mp parsed
    exact ⟨_, text, encodes, .tokens scanned⟩
  cases shown with
  | tokens scanned => exact ⟨_, text, encodes, .tokens scanned⟩
  | surfaces parsed | outlines parsed | objects parsed => exact ofParse parsed

theorem run_eq_runFile {arguments : List String} {view : View} {path : String}
    (asks : Asks arguments view path) {input bytes : ByteArray}
    {directory : Directory} (holds : Holds input directory path bytes) :
    run arguments input directory =
      (runFile view path (.ok bytes), directory) := by
  obtain ⟨options, asked, file, rfl⟩ := asks
  obtain ⟨rfl, rfl⟩ | ⟨named, content⟩ := holds
  · simp [run, asked, file]
  · simp [run, asked, file, named, content]

/-- Behind decoding, what comes of a source is up to the view. -/
theorem runFile_of_encodes {bytes : ByteArray} {text : String}
    (encodes : text.toUTF8 = bytes) (view : View) (path : String) :
    runFile view path (.ok bytes) =
      match view.render text with
      | .ok output => succeed output
      | .error error => fail "" error.message := by
  have decoded := (Text.fromUTF8?_eq_some_iff bytes text).mpr encodes
  cases rendered : view.render text <;>
    simp only [runFile, decodeSource, decoded, rendered]

theorem runFile_of_shows {bytes : ByteArray} {view : View} {output : String}
    (shows : Shows bytes view output) (path : String) :
    runFile view path (.ok bytes) = ⟨0, output, ""⟩ := by
  obtain ⟨text, encodes, shown⟩ := shows
  have rendered := (view.render_eq_ok_iff text output).mpr shown
  rw [runFile_of_encodes encodes, rendered]
  rfl

theorem runFile_of_refuses {bytes : ByteArray} {view : View}
    {path reason : String} (refuses : Refuses path bytes view reason) :
    runFile view path (.ok bytes) = ⟨1, "", "Error: " ++ reason ++ "\n"⟩ := by
  cases refuses with
  | decoding undecodable =>
      have undecoded : String.fromUTF8? bytes = none := by
        cases decoded : String.fromUTF8? bytes with
        | none => rfl
        | some text =>
            have encodes := (Text.fromUTF8?_eq_some_iff bytes text).mp decoded
            exact absurd encodes (undecodable text)
      simp [runFile, decodeSource, undecoded, fail, sourceName,
        String.append_assoc]
  | scanning encodes scanned =>
      rw [runFile_of_encodes encodes]
      cases view with
      | tokens =>
          rw [View.render, scanned]
          rfl
      | trees format =>
          rw [View.render, parse, scanned]
          rfl
  | building encodes scanned built =>
      rw [runFile_of_encodes encodes, View.render, parse, scanned]
      dsimp only
      rw [built]
      rfl

theorem run_of_shows {arguments : List String} {view : View}
    {path output : String} (asks : Asks arguments view path)
    {input bytes : ByteArray} {directory : Directory}
    (holds : Holds input directory path bytes)
    (shows : Shows bytes view output) :
    run arguments input directory = (⟨0, output, ""⟩, directory) := by
  rw [run_eq_runFile asks holds, runFile_of_shows shows]

theorem run_of_refuses {arguments : List String} {view : View}
    {path reason : String} (asks : Asks arguments view path)
    {input bytes : ByteArray} {directory : Directory}
    (holds : Holds input directory path bytes)
    (refuses : Refuses path bytes view reason) :
    run arguments input directory =
      (⟨1, "", "Error: " ++ reason ++ "\n"⟩, directory) := by
  rw [run_eq_runFile asks holds, runFile_of_refuses refuses]

theorem exists_shows_of_code {arguments : List String} {view : View}
    {path : String} (asks : Asks arguments view path)
    {input bytes : ByteArray} {directory : Directory}
    (holds : Holds input directory path bytes)
    (success : (run arguments input directory).1.code = 0) :
    ∃ output, Shows bytes view output := by
  rcases exists_shows_or_refuses path bytes view with
    shows | ⟨reason, refuses⟩
  · exact shows
  · rw [run_of_refuses asks holds refuses] at success
    cases success

/-- A closing delimiter alone has a token to show and no tree. -/
theorem code_of_closer {arguments : List String} {view : View}
    (asks : Asks arguments view "-") (directory : Directory) :
    (run arguments ")".toUTF8 directory).1.code =
      if view = .tokens then 0 else 1 := by
  have holds : Holds ")".toUTF8 directory "-" ")".toUTF8 := .inl ⟨rfl, rfl⟩
  have scanned : tokenize ")" = .ok [.closer ')' ⟨1, 1⟩] := rfl
  have built : read [.closer ')' ⟨1, 1⟩] =
      .error (.invalidCharacter ')' .expression ⟨1, 1⟩) := rfl
  cases view with
  | tokens =>
      have shows : Shows ")".toUTF8 .tokens _ := ⟨_, rfl, .tokens scanned⟩
      rw [run_of_shows asks holds shows]
      rfl
  | trees format =>
      rw [run_of_refuses asks holds (.building rfl scanned built)]
      rfl

/-- A run that reads one source prints all that the view shows of it, which
tells what was read, and no error; or it prints nothing and the reason of the
first stage that fails.  It always does one of the two.  Where trees can be
printed tokens can be printed too, and for some sources only tokens. -/
theorem run_all_or_nothing {arguments : List String} {view : View}
    {path : String} (asks : Asks arguments view path)
    {input bytes : ByteArray} {directory : Directory}
    (holds : Holds input directory path bytes) :
    (∀ output, Shows bytes view output →
      run arguments input directory = (⟨0, output, ""⟩, directory) ∧
        ∃ text : String, text.toUTF8 = bytes ∧ view.Tells text output) ∧
    (∀ reason, Refuses path bytes view reason →
      run arguments input directory =
        (⟨1, "", "Error: " ++ reason ++ "\n"⟩, directory)) ∧
    ((∃ output, Shows bytes view output) ∨
      ∃ reason, Refuses path bytes view reason) ∧
    (∀ others, Asks others .tokens path →
      (run arguments input directory).1.code = 0 →
      (run others input directory).1.code = 0) ∧
    ∃ source : ByteArray, ∀ others,
      (Asks others .tokens "-" → (run others source directory).1.code = 0) ∧
      ∀ format, Asks others (.trees format) "-" →
        (run others source directory).1.code = 1 := by
  refine ⟨?_, fun reason => run_of_refuses asks holds,
    exists_shows_or_refuses path bytes view, ?_, ")".toUTF8, ?_⟩
  · intro output shows
    refine ⟨run_of_shows asks holds shows, ?_⟩
    obtain ⟨text, encodes, shown⟩ := shows
    exact ⟨text, encodes, shown.tells⟩
  · intro others asksTokens success
    obtain ⟨output, shows⟩ := exists_shows_of_code asks holds success
    obtain ⟨listing, listed⟩ := shows.exists_tokens
    rw [run_of_shows asksTokens holds listed]
  · intro others
    exact ⟨fun asksTokens => code_of_closer asksTokens directory,
      fun format asksTrees => code_of_closer asksTrees directory⟩

/-- A list with a name in it and an empty vector. -/
def listAndVector : List Node :=
  [.list [.identifier "a"], .vector []]

def listAndVectorOutline : List String :=
  ["[",
    "    List(",
    "        [",
    "            Identifier(",
    "                \"a\",",
    "            ),",
    "        ],",
    "    ),",
    "    Vector(",
    "        [],",
    "    ),",
    "]"]

def listAndVectorObjects : List String :=
  ["[",
    "  \x7b",
    "    \"kind\": \"list\",",
    "    \"value\": [",
    "      \x7b",
    "        \"kind\": \"identifier\",",
    "        \"value\": \"a\"",
    "      \x7d",
    "    ]",
    "  \x7d,",
    "  \x7b",
    "    \"kind\": \"vector\",",
    "    \"value\": []",
    "  \x7d",
    "]"]

/-- The tokens of a list with a name in it and an opening bracket. -/
def openVector : List Token :=
  [⟨.openParen, none, ⟨1, 1⟩⟩, ⟨.symbol, some "a", ⟨1, 2⟩⟩,
    .closer ')' ⟨1, 3⟩, ⟨.openBracket, none, ⟨1, 5⟩⟩]

def openVectorListing : List String :=
  ["open-paren@1:1",
    "symbol@1:2 \"a\"",
    "close-delimiter@1:3 \")\"",
    "open-bracket@1:5"]

/-- Of a list and a vector all trees are printed, in every format.  While the
vector is open nothing is printed of the trees, and all of the tokens.  Nothing
is printed of a byte that encodes no text. -/
theorem run_all_or_nothing_of_vector :
    (Asks ["-"] (.trees .sexp) "-" ∧
      Asks ["-", "--format", "debug"] (.trees .debug) "-" ∧
      Asks ["-", "--format", "json"] (.trees .json) "-" ∧
      Asks ["-", "--tokens"] .tokens "-" ∧
      ∀ bytes, Holds bytes ⟨[]⟩ "-" bytes) ∧
    run ["-"] "(a) []".toUTF8 ⟨[]⟩ =
      (⟨0, "(a)\n[]\n", ""⟩, ⟨[]⟩) ∧
    run ["-", "--format", "debug"] "(a) []".toUTF8 ⟨[]⟩ =
      (⟨0, Text.endLines listAndVectorOutline, ""⟩, ⟨[]⟩) ∧
    run ["-", "--format", "json"] "(a) []".toUTF8 ⟨[]⟩ =
      (⟨0, Text.endLines listAndVectorObjects, ""⟩, ⟨[]⟩) ∧
    run ["-", "--format", "json"] "(a) [".toUTF8 ⟨[]⟩ =
      (⟨1, "", "Error: Unclosed delimiter \"[\".\n"⟩, ⟨[]⟩) ∧
    run ["-", "--tokens"] "(a) [".toUTF8 ⟨[]⟩ =
      (⟨0, Text.endLines openVectorListing, ""⟩, ⟨[]⟩) ∧
    run ["-", "--tokens"] ⟨#[255]⟩ ⟨[]⟩ =
      (⟨1, "", "Error: failed to read stdin\n\nCaused by:\n" ++
        "    stream did not contain valid UTF-8\n"⟩, ⟨[]⟩) := by
  have surfaces : Request.parse? ["-"] =
      some (.run ⟨some "-", none, none, false⟩) := by decide +kernel
  have outlines : Request.parse? ["-", "--format", "debug"] =
      some (.run ⟨some "-", some .debug, none, false⟩) := by decide +kernel
  have objects : Request.parse? ["-", "--format", "json"] =
      some (.run ⟨some "-", some .json, none, false⟩) := by decide +kernel
  have tokens : Request.parse? ["-", "--tokens"] =
      some (.run ⟨some "-", none, none, true⟩) := by decide +kernel
  have asksSurfaces : Asks ["-"] (.trees .sexp) "-" := ⟨_, surfaces, rfl, rfl⟩
  have asksOutlines : Asks ["-", "--format", "debug"] (.trees .debug) "-" :=
    ⟨_, outlines, rfl, rfl⟩
  have asksObjects : Asks ["-", "--format", "json"] (.trees .json) "-" :=
    ⟨_, objects, rfl, rfl⟩
  have asksTokens : Asks ["-", "--tokens"] .tokens "-" :=
    ⟨_, tokens, rfl, rfl⟩
  have holds (bytes : ByteArray) : Holds bytes ⟨[]⟩ "-" bytes :=
    .inl ⟨rfl, rfl⟩
  have parsed : parse "(a) []" = .ok listAndVector := rfl
  have scanned : tokenize "(a) [" = .ok openVector := rfl
  have built : read openVector = .error (.unclosed '[' ⟨1, 5⟩) := rfl
  have surface : Text.endLines (listAndVector.map Node.surface) =
      "(a)\n[]\n" := by decide +kernel
  have outline : Outline.block 0 "[" "]"
        (listAndVector.map (Node.outlineAt 1)) ++ "\n" =
      Text.endLines listAndVectorOutline := by decide +kernel
  have array : Json.array .pretty 0
        (listAndVector.map (Node.jsonAt .pretty 1)) ++ "\n" =
      Text.endLines listAndVectorObjects := by decide +kernel
  have listing : Text.endLines (openVector.map Token.listing) =
      Text.endLines openVectorListing := by decide +kernel
  have message : "Error: " ++ (ReadError.unclosed '[' ⟨1, 5⟩).message ++ "\n" =
      "Error: Unclosed delimiter \"[\".\n" := by decide +kernel
  have undecoded : String.fromUTF8? ⟨#[255]⟩ = none := by decide +kernel
  have undecodable : ∀ text : String, text.toUTF8 ≠ ⟨#[255]⟩ := by
    intro text encodes
    rw [(Text.fromUTF8?_eq_some_iff _ text).mpr encodes] at undecoded
    cases undecoded
  refine ⟨⟨asksSurfaces, asksOutlines, asksObjects, asksTokens, holds⟩,
    ?_, ?_, ?_, ?_, ?_, ?_⟩
  · rw [← surface]
    exact ((run_all_or_nothing asksSurfaces (holds _)).1 _
      ⟨_, rfl, .surfaces parsed⟩).1
  · rw [← outline]
    exact ((run_all_or_nothing asksOutlines (holds _)).1 _
      ⟨_, rfl, .outlines parsed⟩).1
  · rw [← array]
    exact ((run_all_or_nothing asksObjects (holds _)).1 _
      ⟨_, rfl, .objects parsed⟩).1
  · rw [← message]
    exact (run_all_or_nothing asksObjects (holds _)).2.1 _
      (.building rfl scanned built)
  · rw [← listing]
    exact ((run_all_or_nothing asksTokens (holds _)).1 _
      ⟨_, rfl, .tokens scanned⟩).1
  · exact (run_all_or_nothing asksTokens (holds _)).2.1 _
      (.decoding undecodable)

end Command

end LispReader
