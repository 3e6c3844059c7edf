import PageFlow.Retry
import PageFlow.FlowError

/-! Settings of the engine, of the browser and of the PDF extractor; what a file leaves out keeps
its default. -/
namespace PageFlow

structure ProxyConfig where
  server : String
  username : Option String
  password : Option String
deriving DecidableEq, Repr

namespace ProxyConfig

def fields : Json.Fields ProxyConfig :=
  ProxyConfig.mk <$> Json.field "server" Json.string <*> Json.fieldOption "username" Json.string
    <*> Json.fieldOption "password" Json.string

def read : Json.Doc → Json.Read ProxyConfig := Json.record "ProxyConfig" fields

def credentials (p : ProxyConfig) : Option (String × String) := do
  let user ← p.username
  let password ← p.password
  pure (user, password)

end ProxyConfig

structure BrowserConfig where
  headless : Bool
  viewportWidth : Nat
  viewportHeight : Nat
  chromePath : Option String
  proxy : Option ProxyConfig
  defaultTimeout : Duration
deriving DecidableEq, Repr

namespace BrowserConfig

def default : BrowserConfig := ⟨true, 1920, 1080, none, none, .ofSecs 30⟩

def fields : Json.Fields BrowserConfig :=
  BrowserConfig.mk <$> Json.fieldOr "headless" Json.boolean default.headless
    <*> Json.fieldOr "viewportWidth" Json.word32 default.viewportWidth
    <*> Json.fieldOr "viewportHeight" Json.word32 default.viewportHeight
    <*> Json.fieldOption "chromePath" Json.string <*> Json.fieldOption "proxy" ProxyConfig.read
    <*> Json.fieldOr "defaultTimeoutMs" RetryPolicy.readMillis default.defaultTimeout

def read : Json.Doc → Json.Read BrowserConfig := Json.record "BrowserConfig" fields

def withProxy (c : BrowserConfig) (server : String) : BrowserConfig :=
  { c with proxy := some ⟨server, none, none⟩ }

def withProxyAuth (c : BrowserConfig) (server username password : String) : BrowserConfig :=
  { c with proxy := some ⟨server, some username, some password⟩ }

end BrowserConfig

/-- The program that turns a PDF into data. Without a command none is configured; without a
directory downloads go to the system's own. -/
structure PdfConfig where
  command : Option String
  args : List String
  downloadDir : Option String
  timeout : Duration
deriving DecidableEq, Repr

namespace PdfConfig

def default : PdfConfig := ⟨none, [], none, .ofSecs 60⟩

def fields : Json.Fields PdfConfig :=
  PdfConfig.mk <$> Json.fieldNamedOption "command" Json.string
    <*> Json.fieldOr "args" (Json.items Json.string) default.args
    <*> Json.fieldOr "downloadDir" (fun d => (Json.path d).map some) default.downloadDir
    <*> Json.fieldOr "timeoutMs" RetryPolicy.readMillis default.timeout

def read : Json.Doc → Json.Read PdfConfig := Json.record "PdfConfig" fields

end PdfConfig

structure EngineConfig where
  browser : BrowserConfig
  navigationRetry : RetryPolicy
  httpRetry : RetryPolicy
  disappearanceRetry : RetryPolicy
  disappearanceTimeout : Duration
  httpTimeout : Duration
  fullLoadTimeout : Duration
  pdf : PdfConfig
deriving DecidableEq, Repr

namespace EngineConfig

def default : EngineConfig where
  browser := .default
  navigationRetry := .exponential 2 (.ofSecs 2)
  httpRetry := .exponential 3 (.ofSecs 1)
  disappearanceRetry := .linear 2 (.ofSecs 1)
  disappearanceTimeout := .ofSecs 10
  httpTimeout := .ofSecs 30
  fullLoadTimeout := .ofSecs 60
  pdf := .default

def fields : Json.Fields EngineConfig :=
  EngineConfig.mk <$> Json.fieldOr "browser" BrowserConfig.read default.browser
    <*> Json.fieldOr "navigationRetry" RetryPolicy.read default.navigationRetry
    <*> Json.fieldOr "httpRetry" RetryPolicy.read default.httpRetry
    <*> Json.fieldOr "disappearanceRetry" RetryPolicy.read default.disappearanceRetry
    <*> Json.fieldOr "disappearanceTimeoutMs" RetryPolicy.readMillis default.disappearanceTimeout
    <*> Json.fieldOr "httpTimeoutMs" RetryPolicy.readMillis default.httpTimeout
    <*> Json.fieldOr "fullLoadTimeoutMs" RetryPolicy.readMillis default.fullLoadTimeout
    <*> Json.fieldOr "pdf" PdfConfig.read default.pdf

def read : Json.Doc → Json.Read EngineConfig := Json.record "EngineConfig" fields

def ofFile (name : String) (contents : Except FlowError String) :
    Except FlowError EngineConfig := do
  let text ← contents
  match Json.ofText read text with
  | .ok config => .ok config
  | .error flaw => .error (.session ("invalid config " ++ name ++ ": " ++ flaw.messageIn text))

end EngineConfig
end PageFlow
