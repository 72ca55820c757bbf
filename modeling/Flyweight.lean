import Flyweight.Car
import Flyweight.Command
import Flyweight.Main
import Flyweight.Wire.Pool
import Flyweight.Proofs.Wire.Fill
import Flyweight.Proofs.Wire.Position
import Flyweight.Proofs.Wire.Emission
import Flyweight.Proofs.Car.Record
import Flyweight.Proofs.Car.RoundTrip
import Flyweight.Proofs.Session.Operation
import Flyweight.Proofs.Session.Invariant
import Flyweight.Proofs.Source.Grammar
import Flyweight.Proofs.Source.Acceptance
import Flyweight.Proofs.Command.Generation
import Flyweight.Proofs.Span.Agreement
import Flyweight.Proofs.Car.Recovery
import Flyweight.Proofs.Document.RoundTrip
import Flyweight.Proofs.Wire.History
import Flyweight.Proofs.Source.Types
import Flyweight.Proofs.Source.Summary
import Flyweight.Proofs.Source.Retention
import Flyweight.Proofs.Source.Sections
import Flyweight.Proofs.Span.Exactness
import Flyweight.Proofs.Source.Numeral
import Flyweight.Proofs.Source.Codes
import Flyweight.Source.Opening
import Flyweight.Proofs.Wire.Header
import Flyweight.Proofs.Source.Headers
import Flyweight.Proofs.Car.Stride
import Flyweight.Proofs.Wire.Transfer
import Flyweight.Proofs.Span.Diagnosis
import Flyweight.Proofs.Wire.Footprint
import Flyweight.Proofs.Wire.Member
import Flyweight.Proofs.Wire.Slot
import Flyweight.Proofs.Wire.Kept
import Flyweight.Proofs.Car.Independence
import Flyweight.Proofs.Wire.Choices
import Flyweight.Proofs.Session.Payload
import Flyweight.Proofs.Wire.Bulk
import Flyweight.Proofs.Car.Bulk
import Flyweight.Proofs.Source.Constants
import Flyweight.Proofs.Source.Concatenation
import Flyweight.Proofs.Source.Forest
import Flyweight.Proofs.Source.GroupNames
import Flyweight.Proofs.Source.Interiors
import Flyweight.Proofs.Source.Literal
import Flyweight.Proofs.Text.Identifiers
import Flyweight.Proofs.Text.Lines
import Flyweight.Source.Modules
import Flyweight.Proofs.Source.ModuleIndex
import Flyweight.Proofs.Source.Bundle
import Flyweight.Proofs.Source.Breaks
