import RemoteScreen.Value

/-! Named styles, and the theme below them. -/
namespace RemoteScreen

structure StyleBook where
  themes : List String := ["arc", "clam", "equilux"]
  theme : String := "default"
  styles : List (String × Attributes) := []
  maps : List (String × Attributes) := []

namespace Style

def background : String := "#0b0b14"
def cardBackground : String := "#000000"
def statBackground : String := "#2e1f45"
def textColor : String := "#ffffff"
def mutedColor : String := "#9a9a9a"
def accentColor : String := "#6a4cff"
def warningColor : String := "#f0a030"

def font (size : Int) : Value := .list [.text "TkDefaultFont", .int size]
def boldFont (size : Int) : Value := .list [.text "TkDefaultFont", .int size, .text "bold"]

def titleFont : Value := boldFont 20
def bodyFont : Value := font 11
def headlineFont : Value := boldFont 12
def valueFont : Value := boldFont 20
def glyphFont : Value := font 64

def loadingText : String := "Loading…"
/-- Stands for an image that could not be had. -/
def placeholderGlyph : String := "🖼"

/-- Pixels below each view of a stack. -/
def stackSpacing : Int := 20
def screenPadding : Int := 15

def defaultTheme : String := "equilux"

def look (back front : String) (font : Value) : Attributes :=
  [("background", .text back), ("foreground", .text front), ("font", font)]

/-- The styles that views name. -/
def named : List (String × Attributes) := [
  ("Screen.TFrame", [("background", .text background)]),
  ("Section.TLabel", look background mutedColor headlineFont),
  ("Card.TFrame", [("background", .text cardBackground)]),
  ("CardImage.TLabel", [("background", .text cardBackground), ("foreground", .text mutedColor),
    ("anchor", .text "center")]),
  ("CardTitle.TLabel", look cardBackground textColor titleFont),
  ("CardBody.TLabel", look cardBackground mutedColor bodyFont),
  ("Stat.TFrame", [("background", .text statBackground)]),
  ("StatName.TLabel", look statBackground mutedColor headlineFont),
  ("StatValue.TLabel", look statBackground textColor valueFont),
  ("Action.TButton", look accentColor textColor headlineFont ++ [("padding", .int 12)]),
  ("Unknown.TLabel", look background warningColor bodyFont)]

def mapped : List (String × Attributes) := [
  ("Action.TButton", [("background", .list [.list [.text "active", .text accentColor]])])]

end Style
end RemoteScreen
