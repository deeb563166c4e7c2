import Router.Text.Printable
import Router.Text.Quoted
import Router.Bindings
import Router.Path
import Router.Path.Direction
import Router.Glob
import Router.Glob.Error
import Router.Glob.Compile
import Router.Glob.Match
import Router.Record
import Router.Matcher
import Router.Route
import Router.Route.Check
import Router.Route.Table
import Router.Action
import Router.Config
import Router.Navigator.Trail
import Router.Navigator
import Router.Session
import Router.Session.Script
import Router.Scope
import Router.Scope.Statement
import Router.PublicNames
import Router.Proofs.Path.Resolution
import Router.Proofs.Glob.Declaration
import Router.Proofs.Glob.Reading
import Router.Proofs.Glob.Walk
import Router.Proofs.Matcher.Slot
import Router.Proofs.Matcher.Nesting
import Router.Proofs.Navigator.Effect
import Router.Proofs.Navigator.Browser
import Router.Proofs.Navigator.Effective
import Router.Proofs.Session.Course
import Router.Proofs.Session.Replay
import Router.Proofs.Session.Limit
import Router.Proofs.Session.Coherence
import Router.Proofs.Session.Audience
import Router.Proofs.Session.Hearing
import Router.Proofs.Session.FirstListener
import Router.Proofs.Session.Delivery
import Router.Proofs.Scope.Orders
import Router.Proofs.Scope.Lexical
import Router.Proofs.Navigator.Canonical
import Router.Proofs.Navigator.Links
import Router.Proofs.Path.Composition
import Router.Proofs.Glob.WellFormed
import Router.Proofs.Glob.Admission
import Router.Proofs.Glob.Meaning
import Router.Proofs.Navigator.Forgetting
import Router.Proofs.Path.Survival
import Router.Proofs.Path.Ascent
import Router.Proofs.Path.NormalForm
import Router.Proofs.Path.Hierarchy
import Router.Proofs.Glob.Substitution
import Router.Proofs.Route.Selection
import Router.Proofs.Scope.Isolation
import Router.Proofs.Glob.Blame
import Router.Proofs.Glob.Consumption
import Router.Proofs.Matcher.Direct
import Router.Proofs.Navigator.BackAndForth
import Router.Proofs.Navigator.Neighbours
import Router.Proofs.Scope.Descent
import Router.Proofs.Scope.Redirection
import Router.Proofs.Glob.RawPaths
import Router.Proofs.Session.Depth
import Router.Proofs.Session.Termination
import Router.Proofs.Session.Plans
import Router.Proofs.Session.Subscriptions
import Router.Proofs.Glob.Parameters
import Router.Proofs.Except
