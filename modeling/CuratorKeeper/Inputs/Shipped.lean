import CuratorKeeper.Inputs.Directory

/-! # The configuration that comes along

The configuration files that a curator gets if no other ones are given: no actions of its own, a
client that finds its log store by environment variables, and a commented example of retention.
-/
namespace CuratorKeeper.Shipped

/-- No actions; they are made when a job runs. -/
def actions : String :=
    "# Generated at runtime by the curator run script from config.yaml.\n" ++
    "# Left empty so the defaults in config.yaml apply.\n"

/-- How the curator reaches its log store, and what it logs. -/
def client : String :=
    "client:\n  hosts:\n  - $\x7bES_HOST\x7d\n  port: $\x7bES_PORT\x7d\n  use_ssl: True\n" ++
    "  certificate: $\x7bES_CA\x7d\n  client_cert: $\x7bES_CLIENT_CERT\x7d\n" ++
    "  client_key: $\x7bES_CLIENT_KEY\x7d\n  ssl_no_validate: False\n" ++
    "  timeout: $\x7bCURATOR_TIMEOUT\x7d\n  master_only: False\nlogging:\n" ++
    "  loglevel: $\x7bCURATOR_LOG_LEVEL\x7d\n  logformat: default\n" ++
    "  blacklist: ['elasticsearch', 'urllib3']\n"

/-- How long indices are kept; all of it is commented out. -/
def retention : String :=
    "# Index retention per project namespace.\n#\n# .defaults:\n#   delete:\n" ++
    "#     days: 30\n#\n# .operations:\n#   delete:\n#     weeks: 8\n#\n# myapp-dev:\n" ++
    "#   delete:\n#     days: 1\n#\n# myapp-qe:\n#   delete:\n#     weeks: 1\n"

def directory (path : String) : Directory where
  path := path
  entries :=
    [("curator-actions.yaml", some actions.toUTF8), ("curator5-config.yaml", some client.toUTF8),
      ("curator-config.yaml", some retention.toUTF8)]

end CuratorKeeper.Shipped
