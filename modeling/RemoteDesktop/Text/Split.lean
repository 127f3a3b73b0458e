/-!
# Pieces of a text

Cutting a text at a character and putting the pieces together again, and the lines of a text.
-/

namespace RemoteDesktop.Text

/-- The pieces of a text between the places where `separator` stands. -/
def splitAt (separator : Char) : List Char → List (List Char)
  | [] => [[]]
  | c :: rest =>
    match splitAt separator rest with
    | [] => [[c]]
    | piece :: pieces => if c = separator then [] :: piece :: pieces else (c :: piece) :: pieces

/-- The pieces put together again, with the separator between them. -/
def joinWith (separator : Char) : List (List Char) → List Char
  | [] => []
  | [piece] => piece
  | piece :: pieces => piece ++ separator :: joinWith separator pieces

theorem splitAt_ne_nil (separator : Char) (text : List Char) : splitAt separator text ≠ [] := by
  cases text with
  | nil => simp [splitAt]
  | cons c rest =>
    rw [splitAt]
    split
    · simp
    · split <;> simp

theorem joinWith_splitAt (separator : Char) (text : List Char) :
    joinWith separator (splitAt separator text) = text := by
  induction text with
  | nil => rfl
  | cons c rest ih =>
    rw [splitAt]
    split
    next h => exact absurd h (splitAt_ne_nil _ _)
    next piece pieces h =>
      rw [h] at ih
      split
      next hc =>
        change separator :: joinWith separator (piece :: pieces) = c :: rest
        rw [ih, hc]
      next => cases pieces <;> simp_all [joinWith]

/-- A line without the carriage return that ends it. -/
def dropReturn (line : List Char) : List Char :=
  match line.reverse with
  | '\r' :: rest => rest.reverse
  | _ => line

/-- The lines of a text. A line feed ends a line, together with a carriage return before it; a last
line may lack its end. -/
def lines (text : List Char) : List (List Char) :=
  match (splitAt '\n' text).reverse with
  | [] => []
  | last :: ended =>
    ended.reverse.map dropReturn ++ (if last.isEmpty then [] else [last])

end RemoteDesktop.Text
