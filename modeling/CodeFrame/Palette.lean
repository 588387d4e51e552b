import CodeFrame.Run

/-!
# Palettes

The painters of this library: `Palette.plain` leaves text as it is, `Palette.ansi` wraps it into terminal markers, also
if it is empty, so that no colour leaks into what follows. A marker is an escape character, a bracket, parameters, and
an `m` (`Ansi.marker`).
-/

namespace CodeFrame

namespace Ansi

/-- The character that opens a marker. -/
def escape : Char := '\x1b'

/-- The marker with the given parameters. -/
def marker (parameters : Text) : Text := escape :: '[' :: parameters ++ ['m']

/-- The parameters that turn the colour of a role on. -/
def parameters : Role → Text
  | .frame => "1;34".toList
  | .message => "1;37".toList
  | .error => "1;31".toList
  | .warning => "1;33".toList
  | .diagnostic => "1;33".toList
  | .highlight => "33".toList

/-- Turns the colour of a role on. -/
def opening (role : Role) : Text := marker (parameters role)

/-- Turns every colour off. -/
def reset : Text := marker ['0']

/-- Text between the marker of its role and a reset. -/
def painter : Painter := fun role t => opening role ++ t ++ reset

end Ansi

/-- A painter of this library. -/
inductive Palette where
  | plain
  | ansi
  deriving DecidableEq

namespace Palette

/-- How a palette writes text in a role. -/
def painter : Palette → Painter
  | .plain => fun _ t => t
  | .ansi => Ansi.painter

/-- Colour is used if it is asked for and the setting that turns it off is not exactly `1`. -/
def choose (color : Bool) (noColor : Option Text) : Palette :=
  if color ∧ noColor ≠ some ['1'] then .ansi else .plain

end Palette

end CodeFrame
