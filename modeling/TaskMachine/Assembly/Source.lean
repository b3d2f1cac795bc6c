import TaskMachine.Text.Blank

/-!
# Lines and tokens of assembly source

Source text is read line by line. A line ends at a line feed, and a carriage return just
before that line feed belongs to the ending; a last line without a line feed counts only
if it is not empty. Lines are numbered from 1.

On each line a comment starts at the first `--` outside backquotes (each backquote opens
or closes a quoted stretch) and runs to the end. What remains is trimmed of blanks at both
ends and split into tokens at blanks; a token that starts with a backquote runs to the next
backquote, blanks included, or to the end of the trimmed line.

A line of one token that ends in `:` and does not start with a backquote defines a label,
named by the token without its trailing colons. Other non-empty lines are instructions.

Main statements: `sourceLines`, `stripComment`, `tokenize`, `classify`.
-/

set_option autoImplicit false

namespace TaskMachine.Assembly

def sourceLines (s : String) : List String :=
  let pieces := s.toList.splitOn '\n'
  let ended := pieces.dropLast.map fun p =>
    match p.reverse with
    | '\r' :: rest => String.ofList rest.reverse
    | _ => String.ofList p
  let last := pieces.getLast?.getD []
  if last.isEmpty then ended else ended ++ [String.ofList last]

/-- The characters before the first `--` that is outside backquotes; `quoted` says
whether a backquote is open. -/
def stripCommentFrom (quoted : Bool) : List Char → List Char
  | [] => []
  | '`' :: rest => '`' :: stripCommentFrom (!quoted) rest
  | '-' :: '-' :: rest => if quoted then '-' :: stripCommentFrom quoted ('-' :: rest) else []
  | c :: rest => c :: stripCommentFrom quoted rest

def stripComment (cs : List Char) : List Char :=
  stripCommentFrom false cs

theorem length_dropWhile_le {α : Type} (p : α → Bool) :
    ∀ l : List α, (l.dropWhile p).length ≤ l.length
  | [] => Nat.le_refl _
  | a :: rest => by
    rw [List.dropWhile_cons]
    split
    · exact Nat.le_succ_of_le (length_dropWhile_le p rest)
    · exact Nat.le_refl _

/-- The rest of a backquoted token up to and including its closing backquote, and what
follows; without a closing backquote the token takes the whole line. -/
def quotedPart : List Char → List Char × List Char
  | [] => ([], [])
  | '`' :: after => (['`'], after)
  | c :: rest => ((c :: (quotedPart rest).1), (quotedPart rest).2)

/-- The rest of a plain token, up to the first blank, and what follows. -/
def plainPart : List Char → List Char × List Char
  | [] => ([], [])
  | c :: rest =>
    if Text.isBlank c then ([], c :: rest) else ((c :: (plainPart rest).1), (plainPart rest).2)

theorem quotedPart_length (cs : List Char) : (quotedPart cs).2.length ≤ cs.length := by
  fun_induction quotedPart cs with
  | case1 => simp
  | case2 after => simp
  | case3 c rest _ ih =>
    simp only [List.length_cons]
    omega

theorem plainPart_length (cs : List Char) : (plainPart cs).2.length ≤ cs.length := by
  fun_induction plainPart cs with
  | case1 => simp
  | case2 c rest _ => simp
  | case3 c rest _ ih =>
    simp only [List.length_cons]
    omega

/-- The token that starts with the non-blank `c`, followed by `rest`, and what comes
after it. -/
def splitToken (c : Char) (rest : List Char) : List Char × List Char :=
  let parts := if c = '`' then quotedPart rest else plainPart rest
  (c :: parts.1, parts.2)

theorem splitToken_length (c : Char) (rest : List Char) :
    (splitToken c rest).2.length ≤ rest.length := by
  unfold splitToken
  by_cases h : c = '`'
  · simp only [h, if_true]
    exact quotedPart_length rest
  · simp only [h, if_false]
    exact plainPart_length rest

def tokenChars (cs : List Char) : List (List Char) :=
  match h : Text.dropBlanks cs with
  | [] => []
  | c :: rest =>
    have shorter : (splitToken c rest).2.length < cs.length := by
      have hle : (Text.dropBlanks cs).length ≤ cs.length := length_dropWhile_le _ _
      rw [h] at hle
      have := splitToken_length c rest
      simp only [List.length_cons] at hle
      omega
    (splitToken c rest).1 :: tokenChars (splitToken c rest).2
termination_by cs.length

def tokenize (line : String) : List String :=
  (tokenChars (Text.trimBlanks (stripComment line.toList))).map String.ofList

inductive SourceLine where
  | blank
  | label (name : String)
  | instruction (tokens : List String)
  deriving DecidableEq, Repr

def labelName (token : String) : String :=
  String.ofList (token.toList.reverse.dropWhile (· = ':')).reverse

def classify : List String → SourceLine
  | [] => .blank
  | [token] =>
    if token.toList.getLast? = some ':' && token.toList.head? ≠ some '`' then
      .label (labelName token)
    else .instruction [token]
  | tokens => .instruction tokens

end TaskMachine.Assembly
