import Mathlib.Algebra.GroupWithZero.Nat
import Mathlib.Data.List.DropRight
import Mathlib.Data.List.Infix

/-! # Lines of a text

A text is split into lines at every line break that Python knows, and the lines are joined again by
newlines. What is left of white space at the end is taken off. This keeps a text that ends in a
newline exactly when it has no other line breaks and no other white space before its end.
-/

namespace Neurons.Lib.Lines

/-- The characters that end a line for `str.splitlines`. -/
def isLineBreak (c : Char) : Bool :=
  c ∈ ['\n', '\r', '\x0b', '\x0c', '\x1c', '\x1d', '\x1e', '\u0085', '\u2028', '\u2029']

/-- The lines of the rest of a text, behind the line that has been begun. -/
def splitFrom (line : List Char) : List Char → List (List Char)
  | [] => if line = [] then [] else [line]
  | '\r' :: '\n' :: rest => line :: splitFrom [] rest
  | c :: rest => if isLineBreak c then line :: splitFrom [] rest else splitFrom (line ++ [c]) rest

/-- `text.splitlines()` -/
def splitlines (text : List Char) : List (List Char) := splitFrom [] text

/-- `text.rstrip()` -/
def rstrip (space : Char → Bool) (text : List Char) : List Char := (text.reverse.dropWhile space).reverse

/-- `"\n".join(lines)` -/
def joinLines (lines : List (List Char)) : List Char := ['\n'].intercalate lines

/-- `"\n".join(text.splitlines()).rstrip() + "\n"` -/
def relined (space : Char → Bool) (text : List Char) : List Char :=
  rstrip space (joinLines (splitlines text)) ++ ['\n']

theorem joinLines_cons {line : List Char} {lines : List (List Char)} (more : lines ≠ []) :
    joinLines (line :: lines) = line ++ '\n' :: joinLines lines := by
  cases lines with
  | nil => exact absurd rfl more
  | cons next lines => simp [joinLines, List.intercalate]

theorem joinLines_single (line : List Char) : joinLines [line] = line := by
  simp [joinLines, List.intercalate]

theorem length_joinLines {lines : List (List Char)} (some : lines ≠ []) :
    (joinLines lines).length + 1 = (lines.map fun line => line.length + 1).sum := by
  induction lines with
  | nil => exact absurd rfl some
  | cons line lines ih =>
      by_cases more : lines = []
      · subst more
        simp [joinLines_single]
      · have rest := ih more
        rw [joinLines_cons more, List.map_cons, List.sum_cons, ← rest, List.length_append, List.length_cons]
        omega

theorem mem_joinLines {lines : List (List Char)} {c : Char} (mem : c ∈ joinLines lines) :
    c = '\n' ∨ ∃ line ∈ lines, c ∈ line := by
  induction lines with
  | nil => simp [joinLines, List.intercalate] at mem
  | cons line lines ih =>
      by_cases more : lines = []
      · subst more
        rw [joinLines_single] at mem
        exact .inr ⟨line, by simp, mem⟩
      · rw [joinLines_cons more, List.mem_append, List.mem_cons] at mem
        rcases mem with mem | rfl | mem
        · exact .inr ⟨line, by simp, mem⟩
        · exact .inl rfl
        · rcases ih mem with newline | ⟨other, isLine, mem⟩
          · exact .inl newline
          · exact .inr ⟨other, List.mem_cons_of_mem _ isLine, mem⟩

/-- No line holds a line break. -/
theorem splitFrom_plain {text line : List Char} (begun : ∀ c ∈ line, isLineBreak c = false) :
    ∀ other ∈ splitFrom line text, ∀ c ∈ other, isLineBreak c = false := by
  fun_induction splitFrom line text with
  | case1 => simp
  | case2 line filled => simpa using begun
  | case3 line rest ih =>
      rw [List.forall_mem_cons]
      exact ⟨begun, ih nofun⟩
  | case4 line c rest _ ends ih =>
      rw [List.forall_mem_cons]
      exact ⟨begun, ih nofun⟩
  | case5 line c rest _ goesOn ih =>
      apply ih
      intro d mem
      rcases List.mem_append.mp mem with mem | mem
      · exact begun d mem
      · rw [List.mem_singleton.mp mem]
        exact Bool.eq_false_iff.mpr goesOn

/-- The lines of a text with a newline at its end are not longer than the text. -/
theorem splitFrom_size {text : List Char} (line : List Char) (ended : text.getLast? = some '\n') :
    splitFrom line text ≠ [] ∧
      ((splitFrom line text).map fun other => other.length + 1).sum ≤ line.length + text.length := by
  fun_induction splitFrom line text with
  | case1 => simp at ended
  | case2 => simp at ended
  | case3 line rest ih =>
      refine ⟨List.cons_ne_nil _ _, ?_⟩
      rw [List.map_cons, List.sum_cons, List.length_cons, List.length_cons]
      cases rest with
      | nil => simp [splitFrom]
      | cons c rest =>
          have behind := (ih (by simpa [List.getLast?_cons_cons] using ended)).2
          simp only [List.length_nil] at behind
          omega
  | case4 line c rest _ ends ih =>
      refine ⟨List.cons_ne_nil _ _, ?_⟩
      rw [List.map_cons, List.sum_cons, List.length_cons]
      cases rest with
      | nil => simp [splitFrom]
      | cons d rest =>
          have behind := (ih (by simpa [List.getLast?_cons_cons] using ended)).2
          simp only [List.length_nil] at behind
          omega
  | case5 line c rest _ goesOn ih =>
      cases rest with
      | nil =>
          rw [List.getLast?_singleton] at ended
          cases ended
          exact absurd rfl goesOn
      | cons d rest =>
          obtain ⟨lines, size⟩ := ih (by simpa [List.getLast?_cons_cons] using ended)
          refine ⟨lines, size.trans ?_⟩
          simp only [List.length_append, List.length_cons, List.length_nil]
          omega

/-- A text whose only line breaks are newlines is its lines. -/
theorem joinLines_splitFrom {text line : List Char} (newlines : ∀ c ∈ text, isLineBreak c = true → c = '\n') :
    joinLines (splitFrom line (text ++ ['\n'])) = line ++ text := by
  induction text generalizing line with
  | nil => simp [splitFrom, isLineBreak, joinLines_single]
  | cons c text ih =>
      rw [List.forall_mem_cons] at newlines
      obtain ⟨here, rest⟩ := newlines
      have more : splitFrom [] (text ++ ['\n']) ≠ [] := (splitFrom_size [] (by simp)).1
      have notReturn : c ≠ '\r' := by
        rintro rfl
        exact absurd (here rfl) (by decide)
      by_cases ends : isLineBreak c = true
      · have newline := here ends
        subst newline
        have cut : splitFrom line ('\n' :: (text ++ ['\n'])) = line :: splitFrom [] (text ++ ['\n']) := by
          rw [splitFrom, if_pos ends]
          simp
        rw [List.cons_append, cut, joinLines_cons more, ih rest, List.nil_append]
      · have on : splitFrom line (c :: (text ++ ['\n'])) = splitFrom (line ++ [c]) (text ++ ['\n']) := by
          rw [splitFrom, if_neg ends]
          intro _ same
          exact absurd same notReturn
        rw [List.cons_append, on, ih rest, List.append_assoc]
        rfl

theorem rstrip_eq_self_iff {space : Char → Bool} {text : List Char} :
    rstrip space text = text ↔ ∀ c ∈ text.getLast?, space c = false := by
  rcases List.eq_nil_or_concat' text with rfl | ⟨front, c, rfl⟩
  · simp [rstrip]
  · rw [rstrip, List.reverse_append, List.reverse_singleton, List.singleton_append, List.dropWhile_cons]
    constructor
    · intro kept d last
      rw [List.getLast?_concat] at last
      cases last
      by_contra isSpace
      rw [if_pos (by simpa using isSpace)] at kept
      have tail : front.reverse.dropWhile space <:+ front.reverse := List.dropWhile_suffix space
      have shorter := tail.length_le
      have size := congrArg List.length kept
      simp only [List.length_reverse, List.length_append, List.length_singleton] at size shorter
      omega
    · intro plain
      have last : space c = false := plain c (by simp)
      simp [last]

theorem rstrip_initial (space : Char → Bool) (text : List Char) : rstrip space text <+: text :=
  List.rdropWhile_prefix space text

theorem length_relined_le {space : Char → Bool} {text : List Char} (ended : text.getLast? = some '\n') :
    (relined space text).length ≤ text.length := by
  obtain ⟨lines, size⟩ := splitFrom_size [] ended
  have joined := length_joinLines lines
  have shorter := (rstrip_initial space (joinLines (splitlines text))).length_le
  simp only [splitlines] at shorter
  simp only [relined, splitlines, List.length_append, List.length_singleton]
  simp only [List.length_nil] at size
  omega

/-- A text that ends in a newline is kept exactly when its other line breaks are newlines too, and no
    white space stands before its end. -/
theorem relined_eq_self_iff {space : Char → Bool} {text : List Char} :
    relined space (text ++ ['\n']) = text ++ ['\n'] ↔
      (∀ c ∈ text, isLineBreak c = true → c = '\n') ∧ rstrip space text = text := by
  constructor
  · intro kept
    have stripped : rstrip space (joinLines (splitlines (text ++ ['\n']))) = text :=
      List.append_cancel_right kept
    have ended : (text ++ ['\n']).getLast? = some '\n' := List.getLast?_concat
    obtain ⟨lines, size⟩ := splitFrom_size [] ended
    have joined := length_joinLines lines
    have tail := rstrip_initial space (joinLines (splitlines (text ++ ['\n'])))
    -- nothing was taken off, or the text would be longer than its lines
    have same : joinLines (splitlines (text ++ ['\n'])) = text := by
      rw [stripped] at tail
      apply (tail.eq_of_length_le _).symm
      simp only [List.length_nil, List.length_append, List.length_singleton] at size
      simp only [splitlines]
      omega
    refine ⟨?_, by rw [same] at stripped; exact stripped⟩
    intro c mem ends
    rw [← same] at mem
    rcases mem_joinLines mem with newline | ⟨line, isLine, mem⟩
    · exact newline
    · have begun : ∀ c ∈ ([] : List Char), isLineBreak c = false := nofun
      have plain := splitFrom_plain begun line isLine c mem
      rw [plain] at ends
      cases ends
  · rintro ⟨newlines, stripped⟩
    rw [relined, splitlines, joinLines_splitFrom newlines, List.nil_append, stripped]

/-! ## Parts of a text -/

theorem splitFrom_newline (line rest : List Char) : splitFrom line ('\n' :: rest) = line :: splitFrom [] rest := by
  rw [splitFrom]
  · simp [isLineBreak]
  · simp

theorem splitFrom_break {line rest : List Char} {c : Char} (ends : isLineBreak c = true)
    (alone : c = '\r' → rest.head? ≠ some '\n') : splitFrom line (c :: rest) = line :: splitFrom [] rest := by
  rw [splitFrom, if_pos ends]
  rintro rest' rfl rfl
  exact alone rfl rfl

theorem splitFrom_plain_cons {line rest : List Char} {c : Char} (goesOn : isLineBreak c = false) :
    splitFrom line (c :: rest) = splitFrom (line ++ [c]) rest := by
  rw [splitFrom, if_neg (by simp [goesOn])]
  rintro rest' rfl rfl
  cases goesOn

/-- Behind a newline the lines begin anew. -/
theorem splitFrom_append (line text rest : List Char) :
    splitFrom line (text ++ '\n' :: rest) = splitFrom line (text ++ ['\n']) ++ splitFrom [] rest := by
  fun_induction splitFrom line text with
  | case1 => simp [splitFrom_newline, splitFrom]
  | case2 line filled => simp [splitFrom_newline, splitFrom]
  | case3 line text ih => simp [splitFrom, ih]
  | case4 line c text notPair ends ih =>
      cases text with
      | nil =>
          by_cases return_ : c = '\r'
          · subst return_
            simp [splitFrom]
          · have alone {rest : List Char} : c = '\r' → rest.head? ≠ some '\n' := fun same => absurd same return_
            simp [splitFrom_break ends alone, splitFrom_newline, splitFrom]
      | cons d text =>
          have alone {rest : List Char} : c = '\r' → (d :: text ++ rest).head? ≠ some '\n' := by
            rintro same next
            cases next
            exact notPair text same rfl
          simp only [List.cons_append] at ih alone ⊢
          rw [splitFrom_break ends alone, splitFrom_break ends alone, ih, List.cons_append]
  | case5 line c text notPair goesOn ih =>
      have goesOn : isLineBreak c = false := by simpa using goesOn
      rw [List.cons_append, List.cons_append, splitFrom_plain_cons goesOn, splitFrom_plain_cons goesOn, ih]

theorem joinLines_append {lines others : List (List Char)} (some : lines ≠ []) (more : others ≠ []) :
    joinLines (lines ++ others) = joinLines lines ++ '\n' :: joinLines others := by
  induction lines with
  | nil => exact absurd rfl some
  | cons line lines ih =>
      by_cases last : lines = []
      · subst last
        rw [List.singleton_append, joinLines_cons more, joinLines_single]
      · rw [List.cons_append, joinLines_cons (by simp [last]), joinLines_cons last, ih last, List.append_assoc,
          List.cons_append]

theorem rstrip_append {space : Char → Bool} {back : List Char} (front : List Char) (filled : rstrip space back ≠ []) :
    rstrip space (front ++ back) = front ++ rstrip space back := by
  have stops : back.reverse.dropWhile space ≠ [] := by simpa [rstrip] using filled
  rw [rstrip, rstrip, List.reverse_append, List.dropWhile_append, if_neg (by simpa using stops), List.reverse_append,
    List.reverse_reverse]

/-- A text that goes on behind a newline with more than white space is rendered in two. -/
theorem relined_append {space : Char → Bool} (text : List Char) {rest : List Char}
    (filled : rstrip space (joinLines (splitlines rest)) ≠ []) :
    relined space (text ++ '\n' :: rest) = joinLines (splitlines (text ++ ['\n'])) ++ '\n' :: relined space rest := by
  have more : splitlines rest ≠ [] := by
    intro none
    simp [none, joinLines, rstrip] at filled
  have some : splitlines (text ++ ['\n']) ≠ [] := (splitFrom_size [] (by simp)).1
  simp only [relined, splitlines] at *
  have apart : joinLines (splitFrom [] (text ++ ['\n'])) ++ '\n' :: joinLines (splitFrom [] rest) =
      (joinLines (splitFrom [] (text ++ ['\n'])) ++ ['\n']) ++ joinLines (splitFrom [] rest) := by simp
  rw [splitFrom_append, joinLines_append some more, apart, rstrip_append _ filled]
  simp

/-- Plain characters stand in the lines. -/
theorem mem_joinLines_splitFrom {text line : List Char} {c : Char} (mem : c ∈ line ∨ c ∈ text)
    (plain : isLineBreak c = false) : c ∈ joinLines (splitFrom line text) := by
  have cons {line : List Char} {lines : List (List Char)} (mem : c ∈ line ∨ c ∈ joinLines lines) :
      c ∈ joinLines (line :: lines) := by
    by_cases last : lines = []
    · subst last
      simpa [joinLines_single, joinLines, List.intercalate] using mem
    · rw [joinLines_cons last]
      rcases mem with mem | mem <;> simp [mem]
  fun_induction splitFrom line text with
  | case1 => simp at mem
  | case2 line filled => simpa [joinLines_single] using mem
  | case3 line rest ih =>
      apply cons
      rcases mem with mem | mem
      · exact .inl mem
      · right
        apply ih
        right
        rcases List.mem_cons.mp mem with rfl | mem
        · cases plain
        · rcases List.mem_cons.mp mem with rfl | mem
          · cases plain
          · exact mem
  | case4 line d rest _ ends ih =>
      apply cons
      rcases mem with mem | mem
      · exact .inl mem
      · right
        apply ih
        right
        rcases List.mem_cons.mp mem with rfl | mem
        · rw [ends] at plain
          cases plain
        · exact mem
  | case5 line d rest _ goesOn ih =>
      apply ih
      rcases mem with mem | mem
      · exact .inl (by simp [mem])
      · rcases List.mem_cons.mp mem with rfl | mem
        · exact .inl (by simp)
        · exact .inr mem

theorem rstrip_ne_nil {space : Char → Bool} {text : List Char} {c : Char} (mem : c ∈ text) (filled : space c = false) :
    rstrip space text ≠ [] := by
  intro none
  rw [List.rdropWhile_eq_nil_iff.mp none c mem] at filled
  cases filled

/-- A text at the end is at the end of the lines, before the last newline. -/
theorem suffix_joinLines {text : List Char} (newlines : ∀ c ∈ text, isLineBreak c = true → c = '\n')
    (line front : List Char) : text <:+ joinLines (splitFrom line (front ++ (text ++ ['\n']))) := by
  have behind {line front : List Char} (ih : text <:+ joinLines (splitFrom [] (front ++ (text ++ ['\n'])))) :
      text <:+ joinLines (line :: splitFrom [] (front ++ (text ++ ['\n']))) := by
    have more : splitFrom [] (front ++ (text ++ ['\n'])) ≠ [] := (splitFrom_size [] (by simp)).1
    rw [joinLines_cons more]
    exact ih.trans ((List.suffix_cons _ _).trans (List.suffix_append _ _))
  fun_induction splitFrom line front with
  | case1 | case2 =>
      rw [List.nil_append, joinLines_splitFrom newlines]
      exact List.suffix_append _ _
  | case3 line front ih =>
      rw [List.cons_append, List.cons_append, splitFrom]
      exact behind ih
  | case4 line c front notPair ends ih =>
      by_cases alone : c = '\r' → (front ++ (text ++ ['\n'])).head? ≠ some '\n'
      · rw [List.cons_append, splitFrom_break ends alone]
        exact behind ih
      · -- the return stands before a newline of the text
        obtain ⟨rfl, next⟩ : c = '\r' ∧ (front ++ (text ++ ['\n'])).head? = some '\n' := by
          simpa [Classical.not_imp] using alone
        cases front with
        | cons d front =>
            cases next
            exact absurd rfl (notPair front rfl)
        | nil =>
            cases text with
            | nil => exact List.nil_suffix
            | cons d text =>
                cases next
                rw [List.forall_mem_cons] at newlines
                have more : splitFrom [] (text ++ ['\n']) ≠ [] := (splitFrom_size [] (by simp)).1
                have pair : splitFrom line ('\r' :: '\n' :: (text ++ ['\n'])) = line :: splitFrom [] (text ++ ['\n']) := by
                  rw [splitFrom]
                change _ <:+ joinLines (splitFrom line ('\r' :: '\n' :: (text ++ ['\n'])))
                rw [pair, joinLines_cons more, joinLines_splitFrom newlines.2]
                exact List.suffix_append _ _
  | case5 line c front notPair goesOn ih =>
      rw [List.cons_append, splitFrom_plain_cons (by simpa using goesOn)]
      exact ih

theorem rstrip_rstrip (space : Char → Bool) (text : List Char) : rstrip space (rstrip space text) = rstrip space text :=
  List.rdropWhile_idempotent space text

/-- A text that begins with a newline and has its rendering at its end is its rendering. -/
theorem relined_of_suffix {space : Char → Bool} {text : List Char} (head : text.head? = some '\n')
    (filled : rstrip space (joinLines (splitlines text)) ≠ []) (suffix : relined space text <:+ text) :
    relined space text = text := by
  obtain ⟨front, whole⟩ := suffix
  cases front with
  | nil => exact whole
  | cons c front =>
      rw [← whole] at head
      cases head
      generalize made : rstrip space (joinLines (splitlines text)) = body at filled
      have stripped : rstrip space body = body := made ▸ rstrip_rstrip space _
      have newlines : ∀ c ∈ body, isLineBreak c = true → c = '\n' := by
        intro c mem ends
        rw [← made] at mem
        rcases mem_joinLines ((rstrip_initial space _).subset mem) with newline | ⟨line, isLine, mem⟩
        · exact newline
        · rw [splitFrom_plain (by simp) line isLine c mem] at ends
          cases ends
      have more : splitFrom [] (front ++ (body ++ ['\n'])) ≠ [] := (splitFrom_size [] (by simp)).1
      obtain ⟨before, lines⟩ := suffix_joinLines newlines [] front
      have longer : body = '\n' :: before ++ body := by
        have text_ : text = '\n' :: (front ++ (body ++ ['\n'])) := by rw [← whole, relined, made]; rfl
        calc body = rstrip space (joinLines (splitlines text)) := made.symm
          _ = rstrip space ('\n' :: before ++ body) := by
            rw [splitlines, text_, splitFrom_newline, joinLines_cons more, ← lines]
            rfl
          _ = '\n' :: before ++ body := by
            rw [rstrip_append _ (by rwa [stripped]), stripped]
      have size := congrArg List.length longer
      simp at size
      omega
end Neurons.Lib.Lines
