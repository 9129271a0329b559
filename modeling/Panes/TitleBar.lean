/-!
# The title bar

Panes announce their title at any time, also while the drawer covers the bar. An announcement is
saved at once and shown when the drawer is closed; while the drawer is open the bar shows the
default title.
-/

namespace Panes

/-- What a title bar shows. -/
structure TitleBar.Text where
  /-- The title. -/
  title : String
  /-- The line below the title. -/
  subtitle : Option String
  deriving DecidableEq, Repr

/-- The title bar as the coordinator knows it. -/
structure TitleBar where
  /-- The title for panes that announce none, and while the drawer is open. -/
  defaultTitle : String
  /-- The last announcement. -/
  saved : TitleBar.Text
  /-- What is shown now. -/
  visible : TitleBar.Text
  deriving DecidableEq, Repr

namespace TitleBar

/-- A bar that shows its default title. -/
def initial (defaultTitle : String) : TitleBar :=
  ⟨defaultTitle, ⟨defaultTitle, none⟩, ⟨defaultTitle, none⟩⟩

/-- Show a text. -/
def apply (bar : TitleBar) (text : Text) : TitleBar × Text :=
  ({ bar with visible := text }, text)

/-- Save an announcement and show it, unless the drawer is open. The result is the text to show. -/
def announce (bar : TitleBar) (title subtitle : Option String) (drawerOpen : Bool) :
    TitleBar × Option Text :=
  let text : Text := ⟨title.getD bar.defaultTitle, subtitle⟩
  if drawerOpen then
    ({ bar with saved := text }, none)
  else
    ({ bar with saved := text, visible := text }, some text)

/-- The drawer covers the bar: show the default title alone. -/
def drawerOpened (bar : TitleBar) : TitleBar × Text := bar.apply ⟨bar.defaultTitle, none⟩

/-- The drawer is gone: show the last announcement again. -/
def drawerClosed (bar : TitleBar) : TitleBar × Text := bar.apply bar.saved

end TitleBar

end Panes
