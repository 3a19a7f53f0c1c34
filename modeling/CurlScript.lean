import CurlScript.Main
import CurlScript.Proofs.Config.Report
import CurlScript.Proofs.Cli.Configuration
import CurlScript.Proofs.Cli.Supply
import CurlScript.Proofs.Command.Canonical
import CurlScript.Proofs.Command.Composition
import CurlScript.Proofs.Command.EmptyArgument
import CurlScript.Proofs.Command.Expressible
import CurlScript.Proofs.Command.Rearranged
import CurlScript.Proofs.Draft.CookieLists
import CurlScript.Proofs.Draft.Cookies
import CurlScript.Proofs.Draft.Malformed
import CurlScript.Proofs.Draft.Method
import CurlScript.Proofs.Literal.Denotation
import CurlScript.Proofs.Literal.Layout
import CurlScript.Proofs.Literal.Shift
import CurlScript.Proofs.Literal.ShortString
import CurlScript.Proofs.Request.Timeout
import CurlScript.Proofs.Script.BodyKeyword
import CurlScript.Proofs.Script.Callee
import CurlScript.Proofs.Script.Faultless
import CurlScript.Proofs.Script.Indentation
import CurlScript.Proofs.Script.Printed
import CurlScript.Proofs.Script.Switches
