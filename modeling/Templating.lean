import Templating.Bench.Lorem
import Templating.Bench.Run
import Templating.Cli.Args
import Templating.Cli.Command
import Templating.Cli.Help
import Templating.Cli.Host
import Templating.Cli.Path
import Templating.Cli.Run
import Templating.Cli.Tree
import Templating.Codec.Cjk.Big5
import Templating.Codec.Cjk.EucJp
import Templating.Codec.Cjk.Gb
import Templating.Codec.Cjk.Jis2004
import Templating.Codec.Cjk.Korean
import Templating.Codec.Cjk.ShiftJis
import Templating.Codec.Decode
import Templating.Codec.Error
import Templating.Codec.Escape
import Templating.Codec.Hz
import Templating.Codec.Idna
import Templating.Codec.Iso2022
import Templating.Codec.Multibyte
import Templating.Codec.Name
import Templating.Codec.Normal
import Templating.Codec.Normal.Data
import Templating.Codec.Punycode
import Templating.Codec.Stringprep
import Templating.Codec.Tables
import Templating.Codec.Utf7
import Templating.Config.Env
import Templating.Config.Layers
import Templating.Config.Merge
import Templating.Config.Schema
import Templating.Config.Show
import Templating.Data.Base64
import Templating.Data.Display
import Templating.Data.Hash
import Templating.Data.Json.Read
import Templating.Data.Json.Write
import Templating.Data.Stamp
import Templating.Data.Value
import Templating.Decimal.Notation
import Templating.Decimal.Shortest
import Templating.Failure
import Templating.Main
import Templating.Markup.Escape
import Templating.Markup.Piece
import Templating.Markup.Scan
import Templating.Profile
import Templating.Proofs.Bench.Lorem
import Templating.Proofs.Config.Layers
import Templating.Proofs.Config.Merge
import Templating.Proofs.Config.Nested
import Templating.Proofs.Markup.EscapedContent
import Templating.Proofs.Markup.EscapedLiteral
import Templating.Proofs.Markup.Reading
import Templating.Proofs.Markup.Search
import Templating.Proofs.Profile
import Templating.Proofs.Template.Build
import Templating.Proofs.Template.Conflicts
import Templating.Proofs.Template.Following
import Templating.Proofs.Template.Invariant
import Templating.Proofs.Template.Lifecycle
import Templating.Proofs.Template.Process
import Templating.Proofs.Template.ReadBack
import Templating.Random.Twister
import Templating.Sort.Adaptive
import Templating.Template.Basic
import Templating.Template.Builder
import Templating.Text.Chars
import Templating.Text.Case
import Templating.Text.Cased
import Templating.Text.Integer
import Templating.Text.Names
import Templating.Text.Names.Data
import Templating.Text.Printable
import Templating.Text.Real
import Templating.Text.Surrogate
import Templating.Yaml.Event
import Templating.Yaml.Load
import Templating.Yaml.Mark
import Templating.Yaml.Resolve
import Templating.Yaml.Scalar
import Templating.Yaml.Scanner
import Templating.Yaml.Token
import Templating.Yaml.Tokens
import Templating.Yaml.Typed
import Templating.Yaml.Write
