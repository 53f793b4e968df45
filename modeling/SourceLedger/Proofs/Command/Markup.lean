import Mathlib.Data.List.Infix
import SourceLedger.Command.Markup

/-!
# Lines that can be printed

Every tag that closes a style takes away one that was opened before. So a line cannot be printed in
which more tags close than open, up to some place. A line without brackets can be printed, and so
can one in which a style is opened and closed again.
-/

namespace SourceLedger.Markup

variable {s t after body name style : Text} {c : CodePoint} {opened opened' : List Text}
  {ps : List Piece}

/-- A text that can be encoded, and in which nothing has a meaning in markup. -/
def IsPlain (t : Text) : Prop :=
  ∀ c ∈ t, c.isSurrogate = false ∧ c ≠ openBracket ∧ c ≠ backslash

instance (t : Text) : Decidable (IsPlain t) := List.decidableBAll _ _

theorem IsPlain.append (plain : IsPlain s) (plain' : IsPlain t) : IsPlain (s ++ t) :=
  List.forall_mem_append.mpr ⟨plain, plain'⟩

/-- The tags among some pieces. -/
def tagsOf (ps : List Piece) : List Text :=
  ps.filterMap fun
    | .tag name => some name
    | .plain _ => none

/-- The tags of a text, in order. -/
def tags (s : Text) : List Text := tagsOf (pieces s)

def isClosing (name : Text) : Bool := name.head? = some (.scalar '/')

/-- Up to some place in a text, more tags close a style than open one. -/
def Overclosed (s : Text) : Prop :=
  ∃ first, first <+: tags s ∧ first.countP (!isClosing ·) < first.countP isClosing

instance (s : Text) : Decidable (Overclosed s) :=
  decidable_of_iff
    (∃ first ∈ (tags s).inits, first.countP (!isClosing ·) < first.countP isClosing)
    (exists_congr fun first => and_congr_left fun _ => List.mem_inits first (tags s))

section Render

@[simp] theorem tagsOf_plain (t : Text) (ps : List Piece) : tagsOf (.plain t :: ps) = tagsOf ps :=
  rfl

@[simp] theorem tagsOf_tag (name : Text) (ps : List Piece) :
    tagsOf (.tag name :: ps) = name :: tagsOf ps :=
  rfl

theorem isSome_renderFrom_plain (opened : List Text) (t : Text) (ps : List Piece) :
    (renderFrom opened (.plain t :: ps)).isSome = (renderFrom opened ps).isSome := by
  rw [renderFrom, Option.isSome_map]

theorem renderFrom_closing (closing : isClosing name = true) (opened : List Text)
    (ps : List Piece) : renderFrom opened (.tag name :: ps) =
      (close name.tail opened).bind fun opened => renderFrom opened ps := by
  obtain ⟨name, rfl⟩ := List.head?_eq_some_iff.mp (of_decide_eq_true closing)
  rfl

theorem renderFrom_opening (opening : isClosing name = false) (opened : List Text)
    (ps : List Piece) :
    renderFrom opened (.tag name :: ps) = renderFrom (styleName name :: opened) ps := by
  refine renderFrom.eq_4 opened name ps fun rest h => ?_
  subst h
  cases opening

/-- What is closed was open. -/
theorem length_of_close (closed : close name opened = some opened') :
    opened'.length + 1 = opened.length := by
  unfold close at closed
  split at closed
  · cases closed
  · cases closed
    rfl
  · dsimp only at closed
    split_ifs at closed with among
    cases closed
    have member := List.contains_iff_mem.mp among
    rw [List.length_erase_of_mem member]
    exact Nat.sub_add_cancel (List.length_pos_of_mem member)

/-- Where pieces can be rendered, no more tags close than were open or have opened, up to any
place. -/
theorem countP_closing_le (rendered : (renderFrom opened ps).isSome = true) {first : List Text}
    (isPrefix : first <+: tagsOf ps) :
    first.countP isClosing ≤ opened.length + first.countP (!isClosing ·) := by
  induction ps generalizing opened first with
  | nil =>
      obtain rfl := List.prefix_nil.mp isPrefix
      exact Nat.zero_le _
  | cons piece ps ih =>
      cases piece with
      | plain t =>
          rw [isSome_renderFrom_plain] at rendered
          rw [tagsOf_plain] at isPrefix
          exact ih rendered isPrefix
      | tag name =>
          rw [tagsOf_tag] at isPrefix
          obtain rfl | ⟨later, rfl, among⟩ := List.prefix_cons_iff.mp isPrefix
          · exact Nat.zero_le _
          · cases kind : isClosing name with
            | true =>
                rw [renderFrom_closing kind] at rendered
                obtain ⟨_, rendered⟩ := Option.isSome_iff_exists.mp rendered
                obtain ⟨opened', closed, rendered⟩ := Option.bind_eq_some_iff.mp rendered
                have fewer := length_of_close closed
                have rest := ih (Option.isSome_of_eq_some rendered) among
                simp only [List.countP_cons, kind, if_true, Bool.not_true, Bool.false_eq_true,
                  if_false]
                omega
            | false =>
                rw [renderFrom_opening kind] at rendered
                have rest := ih rendered among
                rw [List.length_cons] at rest
                simp only [List.countP_cons, kind, if_true, Bool.not_false, Bool.false_eq_true,
                  if_false]
                omega

theorem render_of_overclosed (overclosed : Overclosed s) : render s = none := by
  obtain ⟨first, isPrefix, fewer⟩ := overclosed
  rw [← Option.not_isSome_iff_eq_none]
  intro rendered
  have most := countP_closing_le rendered isPrefix
  rw [List.length_nil, Nat.zero_add] at most
  exact absurd fewer (Nat.not_lt.mpr most)

end Render

section Pieces

theorem isSome_renderFrom_addPlain (opened : List Text) (c : CodePoint) (ps : List Piece) :
    (renderFrom opened (addPlain c ps)).isSome = (renderFrom opened ps).isSome := by
  unfold addPlain
  split
  · rw [isSome_renderFrom_plain, isSome_renderFrom_plain]
  · exact isSome_renderFrom_plain _ _ _

@[simp] theorem pieces_nil : pieces [] = [] := by rw [pieces]

theorem pieces_cons (ne_bracket : c ≠ openBracket) (ne_backslash : c ≠ backslash) (rest : Text) :
    pieces (c :: rest) = addPlain c (pieces rest) := by
  have noTag : tag? (c :: rest) = none := by
    rw [tag?, List.takeWhile_cons_of_neg (by simpa using ne_backslash)]
    exact if_neg ne_bracket
  rw [pieces, noTag]

/-- Plain text in front makes no difference for whether a text can be rendered. -/
theorem isSome_renderFrom_append (plain : IsPlain t) (opened : List Text) (s : Text) :
    (renderFrom opened (pieces (t ++ s))).isSome = (renderFrom opened (pieces s)).isSome := by
  induction t with
  | nil => rfl
  | cons c t ih =>
      obtain ⟨⟨-, ne_bracket, ne_backslash⟩, plain⟩ := List.forall_mem_cons.mp plain
      rw [List.cons_append, pieces_cons ne_bracket ne_backslash, isSome_renderFrom_addPlain,
        ih plain]

/-- What can stand between the brackets of a tag. -/
def IsTagBody (body : Text) : Prop :=
  body.head?.any startsTag = true ∧ ∀ c ∈ body, c ≠ closeBracket ∧ c ≠ openBracket

instance (body : Text) : Decidable (IsTagBody body) := inferInstanceAs (Decidable (_ ∧ _))

theorem pieces_tag (isTag : IsTagBody body) (after : Text) :
    pieces (openBracket :: (body ++ closeBracket :: after)) =
      .tag (body.takeWhile (· ≠ .scalar '=')) :: pieces after := by
  obtain ⟨starts, free⟩ := isTag
  cases body with
  | nil => cases starts
  | cons c body =>
      have free : ∀ d ∈ body, (d ≠ closeBracket && d ≠ openBracket) = true := by
        intro d mem
        simpa using free d (List.mem_cons_of_mem c mem)
      have tail : (body ++ closeBracket :: after).takeWhile
          (fun d => d ≠ closeBracket && d ≠ openBracket) = body := by
        rw [List.takeWhile_append_of_pos free, List.takeWhile_cons_of_neg (by simp),
          List.append_nil]
      have isBody : tagBody? (c :: body ++ closeBracket :: after) = some (c :: body, after) := by
        rw [List.cons_append, tagBody?, if_pos (show startsTag c = true from starts), tail]
        dsimp only
        rw [List.drop_left]
        exact if_pos rfl
      have isTag : tag? (openBracket :: (c :: body ++ closeBracket :: after)) =
          some (0, c :: body, after) := by
        rw [tag?, List.takeWhile_cons_of_neg (by decide)]
        change (if openBracket = openBracket then (tagBody? _).bind _ else none) = _
        rw [if_pos rfl, isBody]
        rfl
      rw [pieces, isTag]
      exact dif_pos (by simp; omega)

/-- A style that is opened can be closed, by its name or by none. -/
theorem render_styled {before style t name : Text} (plain : IsPlain before) (plain' : IsPlain t)
    (isStyle : style = ("green" : Text) ∨ style = ("dim" : Text))
    (same : name = style ∨ name = []) :
    (render (before ++ "[" ++ style ++ "]" ++ t ++ "[/" ++ name ++ "]")).isSome = true := by
  obtain ⟨opens, opening, unset⟩ : IsTagBody style ∧ isClosing style = false ∧
      style.takeWhile (· ≠ .scalar '=') = style := by
    rcases isStyle with rfl | rfl <;> decide
  obtain ⟨closes, unset', closed⟩ : IsTagBody (.scalar '/' :: name) ∧
      (CodePoint.scalar '/' :: name).takeWhile (· ≠ .scalar '=') = .scalar '/' :: name ∧
      close name [styleName style] = some [] := by
    rcases isStyle with rfl | rfl <;> rcases same with rfl | rfl <;> decide +kernel
  have shape : before ++ "[" ++ style ++ "]" ++ t ++ "[/" ++ name ++ "]" =
      before ++ openBracket :: (style ++ closeBracket :: (t ++ openBracket ::
        (.scalar '/' :: name ++ closeBracket :: []))) := by
    simp only [List.append_assoc]
    rfl
  rw [shape, render, isSome_renderFrom_append plain, pieces_tag opens, unset,
    renderFrom_opening opening, isSome_renderFrom_append plain', pieces_tag closes, unset',
    renderFrom_closing rfl, List.tail_cons, closed, pieces_nil]
  rfl

theorem render_plain (plain : IsPlain t) : (render t).isSome = true := by
  rw [← List.append_nil t, render, isSome_renderFrom_append plain, pieces_nil]
  rfl

end Pieces

end SourceLedger.Markup
