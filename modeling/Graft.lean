import Graft.Main
import Graft.Proofs.Path.Frame
import Graft.Proofs.Path.Overwrite
import Graft.Proofs.Path.Parsed
import Graft.Proofs.Path.Printing
import Graft.Proofs.Path.Stable
import Graft.Proofs.Path.WriteBack
import Graft.Proofs.Rule.Order
import Graft.Proofs.Rule.Commute
import Graft.Proofs.Rule.Chain
import Graft.Proofs.Rule.Repeat
import Graft.Proofs.Rule.Literal
import Graft.Proofs.Path.Cause
import Graft.Proofs.Template.Action
import Graft.Proofs.Template.Rendering
import Graft.Proofs.Yaml.Equality
import Graft.Proofs.Yaml.Keyed
import Graft.Proofs.Yaml.KeyText
import Graft.Proofs.Yaml.ReadBack
import Graft.Proofs.Collection.ReadBack
import Graft.Proofs.Directory.Change
import Graft.Proofs.File.Saving
import Graft.Proofs.File.Suffix
import Graft.Proofs.File.SaveLoad
import Graft.Proofs.Path.Depth
import Graft.Proofs.Rule.Depth
import Graft.Proofs.Rule.Valid
import Graft.Proofs.File.Writable
import Graft.Proofs.Command.Output
import Graft.Proofs.Label.Printing
import Graft.Proofs.Label.Pairs
import Graft.Proofs.Selector.LabelSet
import Graft.Proofs.Selector.Fields
import Graft.Proofs.Rule.Scope
import Graft.Proofs.Path.Absent
import Graft.Proofs.Path.Commute
import Graft.Proofs.Path.Creation
import Graft.Proofs.Selector.Beside
import Graft.Proofs.Template.Composition
import Graft.Proofs.Label.Joining
import Graft.Proofs.Selector.Positions
import Graft.Proofs.File.Outcome
import Graft.Proofs.Path.ScopeText
import Graft.Proofs.Path.Position
import Graft.Proofs.Yaml.Conversion
