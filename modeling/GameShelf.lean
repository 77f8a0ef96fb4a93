import GameShelf.Main
import GameShelf.Proofs.Binary64.ReadBack
import GameShelf.Proofs.Binary64.Rounding
import GameShelf.Proofs.Catalog.Names
import GameShelf.Proofs.Catalog.RoundTrip
import GameShelf.Proofs.Command.Interleaving
import GameShelf.Proofs.Command.Operands
import GameShelf.Proofs.Comparison
import GameShelf.Proofs.Condition.Blocks
import GameShelf.Proofs.Condition.Complement
import GameShelf.Proofs.Condition.Containment
import GameShelf.Proofs.Condition.Grammar
import GameShelf.Proofs.Condition.Leftmost
import GameShelf.Proofs.Condition.LetterCase
import GameShelf.Proofs.Condition.Printing
import GameShelf.Proofs.Condition.RealEquality
import GameShelf.Proofs.Condition.Segments
import GameShelf.Proofs.Condition.Slices
import GameShelf.Proofs.Files
import GameShelf.Proofs.Integer
import GameShelf.Proofs.JsonValue.Grammar
import GameShelf.Proofs.JsonValue.Numerals
import GameShelf.Proofs.JsonValue.Printing
import GameShelf.Proofs.JsonValue.Reader
import GameShelf.Proofs.LetterCase
import GameShelf.Proofs.Listing
import GameShelf.Proofs.Listing.Decoding
import GameShelf.Proofs.Picks.Edits
import GameShelf.Proofs.Picks.Names
import GameShelf.Proofs.Picks.Removal
import GameShelf.Proofs.Picks.Resolution
import GameShelf.Proofs.Picks.Rows
import GameShelf.Proofs.Picks.Saving
import GameShelf.Proofs.Picks.Spelling
import GameShelf.Proofs.Program
import GameShelf.Proofs.Query
import GameShelf.Proofs.Search.Conjunction
import GameShelf.Proofs.Search.Repetition
import GameShelf.Proofs.Search.Run
import GameShelf.Proofs.Shell.Failure
import GameShelf.Proofs.Shell.FreshStart
import GameShelf.Proofs.Shell.Numbering
import GameShelf.Proofs.Shell.Quoting
import GameShelf.Proofs.Shell.Reproducible
import GameShelf.Proofs.Shell.Run
import GameShelf.Proofs.Sorting
import GameShelf.Proofs.Sorting.Groups
import GameShelf.Proofs.Sorting.Stable
import GameShelf.Proofs.Text.Trim
import GameShelf.Proofs.Words
