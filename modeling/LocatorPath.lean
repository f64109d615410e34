import LocatorPath.CommandLine.Arguments
import LocatorPath.CommandLine.Output
import LocatorPath.CommandLine.Run
import LocatorPath.Config
import LocatorPath.Definition.Basic
import LocatorPath.Definition.File
import LocatorPath.Definition.Registry
import LocatorPath.Definition.Spec
import LocatorPath.Driver
import LocatorPath.Files.Basic
import LocatorPath.Files.Tree
import LocatorPath.Main
import LocatorPath.Octets
import LocatorPath.Outcomes
import LocatorPath.Page
import LocatorPath.Path.Error
import LocatorPath.Path.Segment
import LocatorPath.Path.Step
import LocatorPath.Path.Written
import LocatorPath.Pattern
import LocatorPath.Proofs.CommandLine.Course
import LocatorPath.Proofs.CommandLine.Scene
import LocatorPath.Proofs.Definition.Edit
import LocatorPath.Proofs.Definition.History
import LocatorPath.Proofs.Definition.Suggestion
import LocatorPath.Proofs.Definition.Tree
import LocatorPath.Proofs.Page.Order
import LocatorPath.Proofs.Path.FilterShape
import LocatorPath.Proofs.Path.Grammar
import LocatorPath.Proofs.Path.IndexShape
import LocatorPath.Proofs.Path.Number
import LocatorPath.Proofs.Path.Pieces
import LocatorPath.Proofs.Path.Reach
import LocatorPath.Proofs.Path.Reparse
import LocatorPath.Proofs.Path.RoundTrip
import LocatorPath.Proofs.Path.Separation
import LocatorPath.Proofs.Resolve.Distribution
import LocatorPath.Proofs.Resolve.DocumentOrder
import LocatorPath.Proofs.Resolve.FanOut
import LocatorPath.Proofs.Resolve.FilterAlgebra
import LocatorPath.Proofs.Resolve.Foresight
import LocatorPath.Proofs.Resolve.Law
import LocatorPath.Proofs.Resolve.Likeness
import LocatorPath.Proofs.Resolve.Narrowing
import LocatorPath.Proofs.Resolve.Outcome
import LocatorPath.Proofs.Resolve.Reading
import LocatorPath.Proofs.Resolve.Run
import LocatorPath.Proofs.Resolve.ThisStep
import LocatorPath.Proofs.Resolve.Traffic
import LocatorPath.Proofs.Resolve.Watch
import LocatorPath.Proofs.Resolve.Window
import LocatorPath.Proofs.Unicode.ByteOrder
import LocatorPath.Proofs.Unicode.Trim
import LocatorPath.Proofs.WebDriver.Conduct
import LocatorPath.Proofs.WebDriver.Dialogue
import LocatorPath.Proofs.WebDriver.Failure
import LocatorPath.Proofs.WebDriver.Interleaving
import LocatorPath.Proofs.WebDriver.Marked
import LocatorPath.Proofs.WebDriver.Mirror
import LocatorPath.Proofs.WebDriver.Queries
import LocatorPath.Proofs.WebDriver.Recall
import LocatorPath.Proofs.WebDriver.Residue
import LocatorPath.Proofs.WebDriver.Rounds
import LocatorPath.Proofs.WebDriver.Session
import LocatorPath.Proofs.WebDriver.Tag
import LocatorPath.Proofs.WebDriver.TagCode
import LocatorPath.Proofs.WebDriver.Tagging
import LocatorPath.Proofs.WebDriver.Wires
import LocatorPath.Regex.Basic
import LocatorPath.Regex.Class
import LocatorPath.Regex.Error
import LocatorPath.Regex.Escape
import LocatorPath.Regex.Extent
import LocatorPath.Regex.Flags
import LocatorPath.Regex.Memory
import LocatorPath.Regex.Parse
import LocatorPath.Regex.Simplify
import LocatorPath.Resolve.Error
import LocatorPath.Resolve.Path
import LocatorPath.Resolve.Select
import LocatorPath.Scope
import LocatorPath.Selector
import LocatorPath.Unicode.Age
import LocatorPath.Unicode.Break
import LocatorPath.Unicode.Category
import LocatorPath.Unicode.CharSet
import LocatorPath.Unicode.Character
import LocatorPath.Unicode.Folding
import LocatorPath.Unicode.Lookup
import LocatorPath.Unicode.Property
import LocatorPath.Unicode.Script
import LocatorPath.WebDriver.Address
import LocatorPath.WebDriver.Client
import LocatorPath.WebDriver.Command
import LocatorPath.WebDriver.Exchange
import LocatorPath.WebDriver.Http
import LocatorPath.WebDriver.Server
import LocatorPath.WebDriver.Tag
import LocatorPath.WebDriver.Value
import LocatorPath.WebDriver.Value.Read
import LocatorPath.Yaml.Cursor
import LocatorPath.Yaml.Decode
import LocatorPath.Yaml.Node
import LocatorPath.Yaml.Scalar
import LocatorPath.Yaml.Token
