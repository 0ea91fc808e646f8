import TinyImp.Proofs.Grammar.Provenance
import TinyImp.Proofs.Job.Stages
import TinyImp.Proofs.Text.OneLine
import TinyImp.Proofs.Token.Tiling

/-!
# Reports of jobs

A job reports what the first stage finds that finds anything, one line for
each problem, and nothing of the input has a part in it.  The lines can be
told apart, because no message has a line feed in it: names and rows of digits
are all that a message takes from the source as it is.  If nothing is found,
what the program prints is all that is written, up to the one line about the
failure of a program that fails.
-/

namespace TinyImp

/-! ## Texts from the source -/

/-- The text that a message may take from a token is of one line. -/
def TokenKind.Plain : TokenKind → Prop
  | .ident name => OneLine name
  | .invalid message => OneLine message
  | _ => True

namespace TokenKind

theorem IsName.oneLine {name : String} (isName : IsName name) :
    OneLine name := by
  obtain ⟨head, tail, spelled, letter, others⟩ := isName.letters
  have noLetter : ('\n').isAlpha = false := by decide
  have noWordCharacter : ('\n').isAlphanum = false := by decide
  rw [OneLine, spelled]
  intro member
  rcases List.mem_cons.1 member with isHead | inTail
  · rw [← isHead, noLetter] at letter
    cases letter
  · rcases others _ inTail with wordCharacter | underscore
    · rw [noWordCharacter] at wordCharacter
      cases wordCharacter
    · revert underscore
      decide

theorem plain_of_fixed {kind : TokenKind} (fixed : kind ∈ fixedKinds) :
    kind.Plain := by
  cases kind with
  | ident name | invalid message => simp [fixedKinds] at fixed
  | _ => trivial

theorem WrittenAs.plain {kind : TokenKind} {text : List Char}
    (written : kind.WrittenAs text) : kind.Plain := by
  cases written with
  | fixed member => exact plain_of_fixed member
  | name isName => exact isName.oneLine
  | number | string => trivial

end TokenKind

theorem DigitRun.lineFeed_notMem {digits rest : List Char}
    (run : DigitRun digits rest) : '\n' ∉ digits := by
  have noDigit : ('\n').isDigit = false := by decide
  intro member
  have digit := run.matched.2 _ member
  rw [noDigit] at digit
  cases digit

theorem Flaw.Describes.oneLine {flaw : Flaw} {text rest : List Char}
    (described : flaw.Describes text rest) : OneLine (flaw.message text) := by
  refine flaw.oneLine_message fun shown => ?_
  rcases shown with rfl | rfl
  · exact described.1.lineFeed_notMem
  · exact described.1.lineFeed_notMem

theorem Lexeme.Fits.plain {lexeme : Lexeme} {rest : List Char}
    (fits : lexeme.Fits rest) {kind : TokenKind}
    (given : lexeme.kind? = some kind) : kind.Plain := by
  cases fits with
  | blanks | lineComment | blockComment => cases given
  | token written longest =>
      cases given
      exact written.plain
  | flawed described unique =>
      cases given
      exact described.oneLine

/-- Whatever the text, its tokens bring nothing into a message but texts of
one line. -/
theorem Token.plain_of_mem_scan {source : String} {token : Token}
    (member : token ∈ Token.scan source) : token.kind.Plain := by
  have kinds := map_kind_ofLexemes .start (lexemes source.toList)
  have among := List.mem_map_of_mem (f := Token.kind) member
  rw [scan, kinds] at among
  rcases List.mem_append.1 among with inText | isEnd
  · obtain ⟨lexeme, inLexemes, given⟩ := List.mem_filterMap.1 inText
    obtain ⟨head, tail, rfl⟩ := exists_first_of_mem inLexemes
    exact (Lexeme.first_fits head tail).plain given
  · rw [List.mem_singleton.1 isEnd]
    trivial

theorem Token.Names.oneLine {source name : String}
    (names : Token.Names (Token.scan source) name) : OneLine name := by
  obtain ⟨token, member, kind⟩ := names
  have plain := Token.plain_of_mem_scan member
  rw [kind] at plain
  exact plain

theorem Token.oneLine_of_invalid {source message : String} {token : Token}
    (member : token ∈ Token.scan source)
    (kind : token.kind = .invalid message) : OneLine message := by
  have plain := Token.plain_of_mem_scan member
  rw [kind] at plain
  exact plain

/-- The names in a program are names of tokens of its text. -/
theorem Program.scan_named (source : String) :
    Stmt.NamedByList (Token.Names (Token.scan source))
      (Program.read (Token.scan source)).1 :=
  (Program.read_drawn (Token.exists_end_of_scan source)).namedBy

/-! ## Lines of problems -/

namespace Job

variable {job : Job}

theorem oneLine_of_mem_grammarProblems {problem : Diagnostic}
    (member : problem ∈ job.grammarProblems) : OneLine problem.line := by
  obtain ⟨mismatch, found, rfl⟩ := List.mem_map.1 member
  have inText := Program.read_found (Token.exists_end_of_scan job.source)
    mismatch found
  exact Diagnostic.oneLine_line
    (mismatch.oneLine_message fun _ kind => Token.oneLine_of_invalid inText kind)

theorem oneLine_of_mem_scopeProblems {problem : Diagnostic}
    (member : problem ∈ job.scopeProblems) : OneLine problem.line := by
  obtain ⟨error, found, rfl⟩ := List.mem_map.1 member
  have named : Token.Names (Token.scan job.source) error.name :=
    Stmt.allAbout_scopingList job.program [] .empty
      (Program.scan_named job.source) error found
  exact Diagnostic.oneLine_line (ScopeError.oneLine_message named.oneLine)

theorem oneLine_of_mem_typeProblems {problem : Diagnostic}
    (member : problem ∈ job.typeProblems) : OneLine problem.line := by
  obtain ⟨error, found, rfl⟩ := List.mem_map.1 member
  have cited : ∀ name ∈ error.rule.names,
      Token.Names (Token.scan job.source) name :=
    Stmt.cites_checkList job.program job.program.scoping.symbols
      (Program.scan_named job.source) error found
  exact Diagnostic.oneLine_line
    (TypeRule.oneLine_message fun name named => (cited name named).oneLine)

theorem Finds.oneLine {stage : Stage} {problems : List Diagnostic}
    (finds : job.Finds stage problems) :
    ∀ problem ∈ problems, OneLine problem.line := by
  intro problem member
  cases finds with
  | grammar => exact oneLine_of_mem_grammarProblems member
  | scope => exact oneLine_of_mem_scopeProblems member
  | typing => exact oneLine_of_mem_typeProblems member

end Job

end TinyImp
