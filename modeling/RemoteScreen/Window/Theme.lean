import RemoteScreen.View.Widgets

/-! Themes: the base theme of a window and the styles on top of it. -/
namespace RemoteScreen

namespace StyleBook

/-- The theme that a setting names. -/
def theme? (b : StyleBook) (v : Value) : Option String :=
  match v with
  | .text s => if b.themes.contains s then some s else none
  | _ => none

/-- With the named styles laid over what there is. -/
def withNamed (b : StyleBook) : StyleBook := { b with styles := Style.named, maps := Style.mapped }

end StyleBook

namespace Session

/-- Uses the theme that a setting names, or the default one where it names nothing; an unknown theme
leaves the one in use. -/
def applyTheme (setting : Value) : Act Ui Unit := do
  let name := if setting.truth then setting else .text Style.defaultTheme
  let book := (← theKit).styles
  match book.theme? name with
  | some theme => updateKit fun k => { k with styles := { book.withNamed with theme } }
  | none =>
    log .warning "theme" s!"Unknown theme {name.shown}; keeping {Text.quote book.theme}"
    updateKit fun k => { k with styles := book.withNamed }

end Session
end RemoteScreen
