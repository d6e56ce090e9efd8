import PageBuilder.Editing.Editor

/-!
# Operations

The operations of an editor as values, so that runs of them can be spoken of: what each gives, and
the editor after it.
-/

namespace PageBuilder

/-- A change of the view alone. -/
inductive ViewChange
  | select (id : ElementId)
  | deselect
  | zoomIn
  | zoomOut
  | resetZoom
  | openPanel (panel : Panel)
  | closePanel (panel : Panel)
  | escape
  deriving DecidableEq

def View.change (v : View) : ViewChange → View
  | .select id => v.select id
  | .deselect => v.deselect
  | .zoomIn => v.zoomIn
  | .zoomOut => v.zoomOut
  | .resetZoom => v.resetZoom
  | .openPanel panel => v.openPanel panel
  | .closePanel panel => v.closePanel panel
  | .escape => v.escape

/-- An operation of an editor. -/
inductive Operation
  | add (kind : Kind)
  | relabel (id : ElementId) (label : String)
  | patch (id : ElementId) (patch : Props)
  | delete (id : ElementId)
  | duplicate (id : ElementId)
  | move (id : ElementId) (direction : Direction)
  | reorder (source target : ElementId)
  | clear
  | append (batch : List Element)
  | insertTemplate (template : Template)
  | synthesize (prompt : String)
  | setTheme (theme : Theme)
  | setColumns (columns : Columns)
  | setBrand (brand : Brand)
  | syncBrand (fields : List BrandField)
  | loadPremade (premade : Premade)
  | commit (document : Document)
  | undo
  | redo
  | importText (text : String)
  | rename (name : String)
  | saveProject (stamp : Stamp)
  | loadProject (name : String)
  | deleteProject (name : String)
  | sendChat (text : String) (now : Nat)
  | resolveReplies (now : Nat)
  | resolveAllReplies
  | apply (command : Command)
  | press (key : KeyPress) (typing : Bool) (stamp : Stamp)
  | view (change : ViewChange)

/-- What an operation gives. -/
inductive Outcome
  | done
  /-- Whether anything changed, or a message was taken. -/
  | flag (changed : Bool)
  | id (id : ElementId)
  | copy (id : Option ElementId)
  | ids (ids : List ElementId)
  | count (count : Nat)
  | shortcut (shortcut : Option Shortcut)
  | failed (failure : Failure)

/-- The outcome of an operation that can fail. -/
def Outcome.ofExcept : Except Failure Unit → Outcome
  | .ok () => done
  | .error failure => failed failure

namespace Editor

def changeView (e : Editor) (change : ViewChange) : Editor :=
  { e with view := e.view.change change }

def perform (e : Editor) : Operation → Outcome × Editor
  | .add kind => let (id, e) := e.add kind; (.id id, e)
  | .relabel id label => let (changed, e) := e.relabel id label; (.flag changed, e)
  | .patch id patch => let (changed, e) := e.patch id patch; (.flag changed, e)
  | .delete id => let (changed, e) := e.delete id; (.flag changed, e)
  | .duplicate id => let (copy, e) := e.duplicate id; (.copy copy, e)
  | .move id direction => let (changed, e) := e.move id direction; (.flag changed, e)
  | .reorder source target => let (changed, e) := e.reorder source target; (.flag changed, e)
  | .clear => let (changed, e) := e.clear; (.flag changed, e)
  | .append batch => let (changed, e) := e.append batch; (.flag changed, e)
  | .insertTemplate template => let (ids, e) := e.insertTemplate template; (.ids ids, e)
  | .synthesize prompt => let (ids, e) := e.synthesize prompt; (.ids ids, e)
  | .setTheme theme => let (changed, e) := e.setTheme theme; (.flag changed, e)
  | .setColumns columns => let (changed, e) := e.setColumns columns; (.flag changed, e)
  | .setBrand brand => let (changed, e) := e.setBrand brand; (.flag changed, e)
  | .syncBrand fields => let (changed, e) := e.syncBrand fields; (.flag changed, e)
  | .loadPremade premade => let (changed, e) := e.loadPremade premade; (.flag changed, e)
  | .commit document => let (changed, e) := e.commit document; (.flag changed, e)
  | .undo => let (changed, e) := e.undo; (.flag changed, e)
  | .redo => let (changed, e) := e.redo; (.flag changed, e)
  | .importText text => let (result, e) := e.importText text; (.ofExcept result, e)
  | .rename name => (.done, e.rename name)
  | .saveProject stamp => (.done, e.saveProject stamp)
  | .loadProject name => let (result, e) := e.loadProject name; (.ofExcept result, e)
  | .deleteProject name => let (result, e) := e.deleteProject name; (.ofExcept result, e)
  | .sendChat text now => let (taken, e) := e.sendChat text now; (.flag taken, e)
  | .resolveReplies now => let (count, e) := e.resolveReplies now; (.count count, e)
  | .resolveAllReplies => let (count, e) := e.resolveAllReplies; (.count count, e)
  | .apply command => let (changed, e) := e.apply command; (.flag changed, e)
  | .press key typing stamp =>
    let (shortcut, e) := e.press key typing stamp; (.shortcut shortcut, e)
  | .view change => (.done, e.changeView change)

/-- The editor after a run of operations. -/
def run (e : Editor) (operations : List Operation) : Editor :=
  operations.foldl (fun e operation => (e.perform operation).2) e

end Editor

end PageBuilder
