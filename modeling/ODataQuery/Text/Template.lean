import ODataQuery.Number.Text

/-! Message templates with numbered slots. A slot is a number in braces; filling goes over the
template once, so that braces inside an argument are never read as slots. -/
namespace ODataQuery.Text

/-- A part of a template: text, or a slot with what is written between its braces. -/
inductive Piece
  | plain (text : List Char)
  | slot (inner : List Char)
  deriving DecidableEq

namespace Piece

def source : Piece → List Char
  | plain text => text
  | slot inner => '{' :: (inner ++ ['}'])

/-- The part with the argument of its number in place. A slot without an argument, or without a
number, stays as it is written. -/
def fill (args : List String) : Piece → List Char
  | plain text => text
  | slot inner =>
    match (natWithin? 18446744073709551615 (String.ofList inner)).bind (args[·]?) with
    | some arg => arg.toList
    | none => source (slot inner)

end Piece

def consPlain (c : Char) : List Piece → List Piece
  | .plain text :: rest => .plain (c :: text) :: rest
  | pieces => .plain [c] :: pieces

/-- The pieces of a template. A brace that is never closed is text, and so is all behind it. -/
def piecesOf : List Char → List Piece
  | [] => []
  | c :: rest =>
    if c = '{' then
      match _h : rest.dropWhile (· ≠ '}') with
      | [] => [.plain (c :: rest)]
      | _ :: after => .slot (rest.takeWhile (· ≠ '}')) :: piecesOf after
    else consPlain c (piecesOf rest)
termination_by cs => cs.length
decreasing_by
  · have shorter := (List.dropWhile_sublist (· ≠ '}') (l := rest)).length_le
    rw [_h] at shorter
    simp at shorter ⊢
    omega
  · simp

def fillPieces (args : List String) (pieces : List Piece) : List Char :=
  pieces.flatMap (Piece.fill args)

def fillTemplate (template : String) (args : List String) : String :=
  String.ofList (fillPieces args (piecesOf template.toList))

theorem source_consPlain (c : Char) (pieces : List Piece) :
    (consPlain c pieces).flatMap Piece.source = c :: pieces.flatMap Piece.source := by
  unfold consPlain
  split <;> simp [Piece.source]

/-- The pieces of a template are all of it. -/
theorem source_piecesOf (cs : List Char) : (piecesOf cs).flatMap Piece.source = cs := by
  fun_induction piecesOf cs with
  | case1 => rfl
  | case2 rest unclosed => simp [Piece.source]
  | case3 rest d after closed ih =>
    have hd : d = '}' := by
      have := List.head?_dropWhile_not (· ≠ '}') rest
      rw [closed] at this
      simpa using this
    have whole := List.takeWhile_append_dropWhile (p := (· ≠ '}')) (l := rest)
    rw [closed, hd] at whole
    simpa [Piece.source, ih] using whole
  | case4 c rest plain ih => rw [source_consPlain, ih]

end ODataQuery.Text
