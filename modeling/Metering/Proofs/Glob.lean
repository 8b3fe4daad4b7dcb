import Metering.Proofs.Meter.Spelling
import Metering.View

/-!
The language of name patterns: the texts that can be split along a pattern, part by part. Matching
goes through a pattern once and keeps to it exactly which beginnings of a text can be split along
what has been read of the pattern.
-/

namespace Metering

namespace Text

/-- Only a letter can be another character's small letter. -/
theorem lowerChar_eq_iff {c other : Char} (plain : isAsciiLetter other = false) :
    lowerChar c = other ↔ c = other := by
  by_cases capital : 'A' ≤ c ∧ c ≤ 'Z'
  · obtain ⟨⟨letter, _⟩, small, _⟩ := lowerChar_capital c capital
    constructor <;> rintro rfl
    · cases plain.symm.trans small
    · cases plain.symm.trans letter
  · rw [lowerChar, if_neg capital]

end Text

namespace Glob

open Text

/-- Whether a symbol of a pattern can stand for a part of a text. Characters are compared by what
`fold` makes of them. -/
def Fits (fold : Char → Char) (symbol : Char) (part : List Char) : Prop :=
  symbol = '*' ∨ ∃ c, part = [c] ∧ (symbol = '?' ∨ fold symbol = fold c)

/-- Whether a text can be split along a pattern, with a part for each symbol. -/
inductive Splits (fold : Char → Char) : List Char → List Char → Prop where
  | nil : Splits fold [] []
  | cons {symbol : Char} {pattern part rest : List Char} (fits : Fits fold symbol part)
      (splits : Splits fold pattern rest) : Splits fold (symbol :: pattern) (part ++ rest)

section Splits

variable {fold : Char → Char} {pattern text : List Char} {symbol : Char}

theorem splits_nil_iff : Splits fold [] text ↔ text = [] := by
  constructor
  · intro splits
    cases splits
    rfl
  · rintro rfl
    exact .nil

theorem splits_cons_iff : Splits fold (symbol :: pattern) text ↔
    ∃ part rest, text = part ++ rest ∧ Fits fold symbol part ∧ Splits fold pattern rest := by
  constructor
  · intro splits
    cases splits with
    | cons fits splits => exact ⟨_, _, rfl, fits, splits⟩
  · rintro ⟨part, rest, rfl, fits, splits⟩
    exact .cons fits splits

theorem splits_concat_iff : Splits fold (pattern ++ [symbol]) text ↔
    ∃ front part, text = front ++ part ∧ Splits fold pattern front ∧ Fits fold symbol part := by
  constructor
  · induction pattern generalizing text with
    | nil =>
      intro splits
      obtain ⟨part, rest, rfl, fits, splits⟩ := splits_cons_iff.mp splits
      cases splits
      exact ⟨[], part, List.append_nil part, .nil, fits⟩
    | cons first pattern ih =>
      intro splits
      obtain ⟨head, rest, rfl, fits, splits⟩ := splits_cons_iff.mp splits
      obtain ⟨front, part, rfl, splits, last⟩ := ih splits
      exact ⟨head ++ front, part, (List.append_assoc ..).symm, .cons fits splits, last⟩
  · rintro ⟨front, part, rfl, splits, last⟩
    induction splits with
    | nil => exact splits_cons_iff.mpr ⟨part, [], (List.append_nil part).symm, last, .nil⟩
    | cons fits _ ih => exact splits_cons_iff.mpr ⟨_, _, List.append_assoc .., fits, ih⟩

/-- A run at the end of a pattern stands for all behind any beginning. -/
theorem splits_run_iff : Splits fold (pattern ++ ['*']) text ↔
    ∃ length ≤ text.length, Splits fold pattern (text.take length) := by
  rw [splits_concat_iff]
  constructor
  · rintro ⟨front, part, rfl, splits, _⟩
    refine ⟨front.length, ?_, ?_⟩
    · exact List.length_append ▸ Nat.le_add_right _ _
    · rwa [List.take_left]
  · rintro ⟨length, _, splits⟩
    exact ⟨_, _, (List.take_append_drop length text).symm, splits, .inl rfl⟩

/-- Any other symbol at the end of a pattern stands for the last character. -/
theorem splits_single_iff (single : symbol ≠ '*') : Splits fold (pattern ++ [symbol]) text ↔
    ∃ front c, text = front ++ [c] ∧ Splits fold pattern front ∧
      (symbol = '?' ∨ fold symbol = fold c) := by
  rw [splits_concat_iff]
  constructor
  · rintro ⟨front, part, rfl, splits, run | ⟨c, rfl, same⟩⟩
    · exact absurd run single
    · exact ⟨front, c, rfl, splits, same⟩
  · rintro ⟨front, c, rfl, splits, same⟩
    exact ⟨front, [c], rfl, splits, .inr ⟨c, rfl, same⟩⟩

/-- A pattern without wildcards is the only text that it stands for. -/
theorem splits_plain_iff (plain : ∀ symbol ∈ pattern, symbol ≠ '*' ∧ symbol ≠ '?') :
    Splits fold pattern text ↔ pattern.map fold = text.map fold := by
  induction pattern generalizing text with
  | nil => rw [splits_nil_iff, List.map_nil, eq_comm (a := []), List.map_eq_nil_iff]
  | cons symbol pattern ih =>
    obtain ⟨⟨run, single⟩, behind⟩ := List.forall_mem_cons.mp plain
    rw [splits_cons_iff, List.map_cons]
    constructor
    · rintro ⟨part, rest, rfl, wild | ⟨c, rfl, wild | same⟩, splits⟩
      · exact absurd wild run
      · exact absurd wild single
      · rw [List.singleton_append, List.map_cons, same, (ih behind).mp splits]
    · intro same
      obtain ⟨c, rest, rfl, head, tail⟩ := List.map_eq_cons_iff.mp same.symm
      exact ⟨[c], rest, rfl, .inr ⟨c, rfl, .inr head.symm⟩, (ih behind).mpr tail.symm⟩

end Splits

section Run

theorem length_closeRuns (seen : Bool) (reached : List Bool) :
    (closeRuns seen reached).length = reached.length := by
  induction reached generalizing seen with
  | nil => rfl
  | cons here rest ih => rw [closeRuns, List.length_cons, ih, List.length_cons]

theorem getElem?_closeRuns (seen : Bool) (reached : List Bool) (i : Nat) :
    (closeRuns seen reached)[i]? = some true ↔
      i < reached.length ∧ (seen = true ∨ ∃ j ≤ i, reached[j]? = some true) := by
  induction reached generalizing seen i with
  | nil => simp [closeRuns]
  | cons here rest ih =>
    cases i with
    | zero => simp [closeRuns]
    | succ i =>
      have later : (∃ j ≤ i + 1, (here :: rest)[j]? = some true) ↔
          here = true ∨ ∃ j ≤ i, rest[j]? = some true := by
        constructor
        · rintro ⟨j, bound, marked⟩
          cases j with
          | zero => exact .inl (Option.some.inj marked)
          | succ j => exact .inr ⟨j, Nat.le_of_succ_le_succ bound, marked⟩
        · rintro (rfl | ⟨j, bound, marked⟩)
          · exact ⟨0, Nat.zero_le _, rfl⟩
          · exact ⟨j + 1, Nat.succ_le_succ bound, marked⟩
      rw [closeRuns, List.getElem?_cons_succ, ih, later, Bool.or_eq_true, or_assoc,
        List.length_cons, Nat.add_lt_add_iff_right]

end Run

/-- Whether just those beginnings of a text are marked that can be split along what has been read
of a pattern. -/
structure Marks (text read : List Char) (reached : List Bool) : Prop where
  length : reached.length = text.length + 1
  mark : ∀ i ≤ text.length, reached[i]? = some true ↔ Splits id read (text.take i)

section Marks

theorem marks_start (text : List Char) : Marks text [] (true :: text.map fun _ => false) where
  length := by rw [List.length_cons, List.length_map]
  mark := fun i inside => by
    rw [splits_nil_iff, List.take_eq_nil_iff]
    cases i with
    | zero => simp
    | succ i =>
      have present : text ≠ [] := List.ne_nil_of_length_pos (Nat.lt_of_lt_of_le i.succ_pos inside)
      simp [present, List.getElem?_replicate]

variable {text read : List Char} {reached : List Bool} (marks : Marks text read reached)

include marks

theorem Marks.run : Marks text (read ++ ['*']) (closeRuns false reached) where
  length := (length_closeRuns false reached).trans marks.length
  mark := fun i inside => by
    have taken : ∀ j ≤ i, (text.take i).take j = text.take j := fun j bound => by
      rw [List.take_take, Nat.min_eq_left bound]
    rw [getElem?_closeRuns, splits_run_iff, marks.length, List.length_take,
      Nat.min_eq_left inside]
    constructor
    · rintro ⟨_, seen | ⟨j, bound, marked⟩⟩
      · cases seen
      · exact ⟨j, bound, taken j bound ▸ (marks.mark j (Nat.le_trans bound inside)).mp marked⟩
    · rintro ⟨j, bound, splits⟩
      rw [taken j bound] at splits
      exact ⟨Nat.lt_succ_of_le inside, .inr
        ⟨j, bound, (marks.mark j (Nat.le_trans bound inside)).mpr splits⟩⟩

theorem Marks.single {symbol : Char} (single : symbol ≠ '*') :
    Marks text (read ++ [symbol]) (false ::
      List.zipWith (fun c here => here && (symbol = '?' || symbol = c)) text reached) where
  length := by
    rw [List.length_cons, List.length_zipWith, marks.length, Nat.min_eq_left (Nat.le_succ _)]
  mark := fun i inside => by
    rw [splits_single_iff single]
    cases i with
    | zero => simp
    | succ i =>
      have taken : text.take (i + 1) = text.take i ++ [text[i]] :=
        List.take_succ_eq_append_getElem inside
      have known : i < reached.length := marks.length ▸ Nat.lt_succ_of_lt inside
      have marked := marks.mark i (Nat.le_of_lt inside)
      rw [List.getElem?_eq_getElem known, Option.some_inj] at marked
      rw [List.getElem?_cons_succ, List.getElem?_zipWith, List.getElem?_eq_getElem inside,
        List.getElem?_eq_getElem known, taken]
      simp only [Option.some_inj, Bool.and_eq_true, Bool.or_eq_true, decide_eq_true_eq, marked]
      constructor
      · rintro ⟨splits, same⟩
        exact ⟨_, _, rfl, splits, same⟩
      · rintro ⟨front, c, spelled, splits, same⟩
        obtain ⟨rfl, last⟩ := List.append_inj' spelled rfl
        cases last
        exact ⟨splits, same⟩

theorem Marks.advance (symbol : Char) :
    Marks text (read ++ [symbol]) (advance text reached symbol) := by
  unfold Glob.advance
  split
  next run => exact run ▸ marks.run
  next single => exact marks.single single

theorem Marks.foldl (symbols : List Char) :
    Marks text (read ++ symbols) (symbols.foldl (Glob.advance text) reached) := by
  induction symbols generalizing read reached with
  | nil => exact (List.append_nil read).symm ▸ marks
  | cons symbol rest ih => exact List.append_cons .. ▸ ih (marks.advance symbol)

end Marks

theorem accepts_iff (glob : Glob) (name : String) :
    glob.accepts name = true ↔ Splits id glob.symbols (lower name).toList := by
  -- The last mark is that of the whole text.
  have marks := (marks_start (lower name).toList).foldl glob.symbols
  have last := marks.mark (lower name).toList.length (Nat.le_refl _)
  rw [List.take_length, List.nil_append] at last
  rw [accepts, List.getLast?_eq_getElem?, marks.length, Nat.add_sub_cancel, ← last]
  cases (glob.symbols.foldl (advance (lower name).toList) _)[(lower name).toList.length]? with
  | none => simp
  | some marked => simp

theorem fits_map_iff {symbol : Char} {part : List Char} :
    Fits id (lowerChar symbol) (part.map lowerChar) ↔ Fits lowerChar symbol part := by
  have run : lowerChar symbol = '*' ↔ symbol = '*' := lowerChar_eq_iff (by decide)
  have single : lowerChar symbol = '?' ↔ symbol = '?' := lowerChar_eq_iff (by decide)
  rw [Fits, Fits, run, single]
  refine or_congr_right ⟨?_, ?_⟩
  · rintro ⟨small, spelled, same⟩
    obtain ⟨c, rfl, rfl⟩ := List.map_eq_singleton_iff.mp spelled
    exact ⟨c, rfl, same⟩
  · rintro ⟨c, rfl, same⟩
    exact ⟨lowerChar c, rfl, same⟩

/-- Small letters can be compared in place of letters of any case. -/
theorem splits_map_iff {pattern text : List Char} :
    Splits id (pattern.map lowerChar) (text.map lowerChar) ↔ Splits lowerChar pattern text := by
  induction pattern generalizing text with
  | nil => rw [List.map_nil, splits_nil_iff, splits_nil_iff, List.map_eq_nil_iff]
  | cons symbol pattern ih =>
    rw [List.map_cons, splits_cons_iff, splits_cons_iff]
    constructor
    · rintro ⟨small, behind, spelled, fits, splits⟩
      obtain ⟨part, rest, rfl, rfl, rfl⟩ := List.map_eq_append_iff.mp spelled
      exact ⟨part, rest, rfl, fits_map_iff.mp fits, ih.mp splits⟩
    · rintro ⟨part, rest, rfl, fits, splits⟩
      exact ⟨_, _, List.map_append, fits_map_iff.mpr fits, ih.mpr splits⟩

/-- A pattern accepts just the names that can be split along it. -/
theorem accepts_ofString_iff (pattern name : String) :
    (ofString pattern).accepts name = true ↔
      Splits lowerChar pattern.toList name.toList := by
  rw [accepts_iff, ofString, toList_lower, toList_lower, splits_map_iff]

section Expression

/-- What a pattern comes to as a regular expression: single characters, any character, and any run
of characters. -/
inductive Factor where
  | literal (c : Char)
  | dot
  | dots
  deriving DecidableEq, Repr

/-- Whether a character stands for something else than itself in an expression. -/
def isOperator (c : Char) : Bool := "\\.+*?()|[]\x7b\x7d^$#&-~".toList.contains c

namespace Factor

def ofSymbol (symbol : Char) : Factor :=
  if symbol = '*' then .dots else if symbol = '?' then .dot else .literal symbol

def spelled : Factor → List Char
  | .literal c => if isOperator c then ['\\', c] else [c]
  | .dot => ['.']
  | .dots => ['.', '*']

/-- Any character of a line. -/
def Matches : Factor → List Char → Prop
  | .literal c, part => part = [c]
  | .dot, part => ∃ c, part = [c] ∧ c ≠ '\n'
  | .dots, part => '\n' ∉ part

/-- Reads an expression up to the anchor at its end. -/
def read? : List Char → Option (List Factor)
  | [] => none
  | ['$'] => some []
  | '.' :: '*' :: rest => (read? rest).map (.dots :: ·)
  | '.' :: rest => (read? rest).map (.dot :: ·)
  | '\\' :: c :: rest => (read? rest).map (.literal c :: ·)
  | c :: rest => if isOperator c then none else (read? rest).map (.literal c :: ·)

/-- Whether a whole text can be split along the factors of an expression. -/
inductive MatchAll : List Factor → List Char → Prop where
  | nil : MatchAll [] []
  | cons {factor : Factor} {factors : List Factor} {part rest : List Char}
      (matches_ : factor.Matches part) (others : MatchAll factors rest) :
      MatchAll (factor :: factors) (part ++ rest)

end Factor

/-- The expression of a pattern, with an anchor at both ends. -/
def expression (pattern : String) : List Char :=
  '^' :: ((lower pattern).toList.flatMap fun symbol => (Factor.ofSymbol symbol).spelled) ++ ['$']

/-- Whether an anchored expression finds a text. -/
def Finds (expression text : List Char) : Prop :=
  ∃ factors, expression.head? = some '^' ∧ Factor.read? expression.tail = some factors ∧
    Factor.MatchAll factors text

namespace Factor

theorem read?_plain {c : Char} (plain : isOperator c = false) (rest : List Char) :
    read? (c :: rest) = (read? rest).map (.literal c :: ·) := by
  have other : ∀ operator, isOperator operator = true → c ≠ operator := by
    rintro operator is rfl
    cases plain.symm.trans is
  rw [read?]
  · rw [plain]
    rfl
  · exact fun same => absurd same (other '$' (by decide))
  · exact fun _ same => absurd same (other '.' (by decide))
  · exact fun same => absurd same (other '.' (by decide))
  · exact fun _ _ same => absurd same (other '\\' (by decide))

theorem read?_dot {rest : List Char} (other : rest.head? ≠ some '*') :
    read? ('.' :: rest) = (read? rest).map (.dot :: ·) := by
  cases rest with
  | nil => rfl
  | cons c rest =>
    rw [read?]
    rintro _ same
    cases same
    exact other rfl

/-- No factor is written with a star in front. -/
theorem head?_spelled (factors : List Factor) :
    (factors.flatMap spelled ++ ['$']).head? ≠ some '*' := by
  cases factors with
  | nil => decide
  | cons factor factors =>
    cases factor with
    | literal c =>
      cases operator : isOperator c with
      | true => simp [spelled, operator]
      | false =>
        have other : c ≠ '*' := by
          rintro rfl
          cases operator
        simp [spelled, operator, other]
    | dot => exact nofun
    | dots => exact nofun

/-- What is written is read back. -/
theorem read?_spelled (factors : List Factor) :
    read? (factors.flatMap spelled ++ ['$']) = some factors := by
  induction factors with
  | nil => rfl
  | cons factor factors ih =>
    cases factor with
    | literal c =>
      rw [List.flatMap_cons, List.append_assoc]
      cases operator : isOperator c with
      | true =>
        simp only [spelled, operator, if_true, List.cons_append, List.nil_append, read?, ih]
        rfl
      | false =>
        have written : spelled (.literal c) = [c] := by rw [spelled, operator]; rfl
        rw [written, List.singleton_append, read?_plain operator, ih]
        rfl
    | dot =>
      have read := read?_dot (head?_spelled factors)
      rw [ih] at read
      exact read
    | dots =>
      show (read? (factors.flatMap spelled ++ ['$'])).map (.dots :: ·) = _
      rw [ih]
      rfl

theorem matches_ofSymbol_iff {symbol : Char} {part : List Char} (line : '\n' ∉ part) :
    (ofSymbol symbol).Matches part ↔ Fits id symbol part := by
  unfold ofSymbol Fits
  split
  next run => exact iff_of_true line (.inl run)
  next many =>
    rw [or_iff_right many]
    split
    next single =>
      constructor
      · rintro ⟨c, rfl, _⟩
        exact ⟨c, rfl, .inl single⟩
      · rintro ⟨c, rfl, _⟩
        exact ⟨c, rfl, fun same => line (List.mem_singleton.mpr same.symm)⟩
    next plain =>
      constructor
      · rintro rfl
        exact ⟨symbol, rfl, .inr rfl⟩
      · rintro ⟨c, rfl, wild | same⟩
        · exact absurd wild plain
        · exact congrArg ([·]) same.symm

theorem matchAll_iff {pattern text : List Char} (line : '\n' ∉ text) :
    MatchAll (pattern.map ofSymbol) text ↔ Splits id pattern text := by
  constructor
  · induction pattern generalizing text with
    | nil =>
      rintro ⟨⟩
      exact .nil
    | cons symbol pattern ih =>
      rintro (_ | ⟨matches_, others⟩)
      rw [List.mem_append, not_or] at line
      exact .cons ((matches_ofSymbol_iff line.1).mp matches_) (ih line.2 others)
  · intro splits
    induction splits with
    | nil => exact .nil
    | cons fits _ ih =>
      rw [List.mem_append, not_or] at line
      exact .cons ((matches_ofSymbol_iff line.1).mpr fits) (ih line.2)

end Factor

/-- On one line, the expression of a pattern finds what the pattern accepts. -/
theorem finds_iff (pattern name : String) (line : '\n' ∉ name.toList) :
    Finds (expression pattern) (lower name).toList ↔ (ofString pattern).accepts name = true := by
  have still : '\n' ∉ (lower name).toList := by
    rw [toList_lower, List.mem_map]
    rintro ⟨c, member, small⟩
    exact line ((lowerChar_eq_iff (by decide)).mp small ▸ member)
  have read : Factor.read? (expression pattern).tail =
      some ((lower pattern).toList.map Factor.ofSymbol) := by
    rw [← Factor.read?_spelled, List.flatMap_map]
    rfl
  rw [accepts_iff, ofString, ← Factor.matchAll_iff still]
  constructor
  · rintro ⟨factors, _, same, matches_⟩
    cases read.symm.trans same
    exact matches_
  · exact fun matches_ => ⟨_, rfl, read, matches_⟩

end Expression

end Glob

end Metering
