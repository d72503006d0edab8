import ChannelFeed.Files.Fault
import ChannelFeed.Http.Library
import ChannelFeed.Json.Fault

/-!
# Failures

What a caller of the feed can be told instead of an answer. Each failure is a cause; its wording is in
`message`, and `parts` writes the cause out for a diagnostic line.
-/

namespace ChannelFeed

inductive Failure where
  | invalidBaseUrl (url reason : String)
  | missingBaseUrl
  | client (refusal : Http.Refusal)
  | channelNotFound (description : String)
  /-- The fetch behind a cached value failed. -/
  | fetch (text : String)
  /-- An explicitly named settings file does not exist. -/
  | settingsNotFound (path : String)
  /-- A settings file cannot be read or written. -/
  | files (fault : Files.Fault)
  | settings (fault : Json.Fault)
  /-- There is no home directory to look for settings in. -/
  | homeNotFound

namespace Failure

def message : Failure → String
  | .invalidBaseUrl url reason => "Invalid API base URL '" ++ url ++ "': " ++ reason
  | .missingBaseUrl => "No API base URL configured, set api_base_url or CHANNEL_LIST_API_URL"
  | .client refusal => "Could not build the HTTP client: " ++ refusal.message
  | .channelNotFound description => "No channel " ++ description
  | .fetch text => "Channel list fetch failed: " ++ text
  | .settingsNotFound path => "Settings file not found: " ++ path
  | .files fault => "IO error: " ++ fault.message
  | .settings fault => "Error parsing settings file, are you missing some settings? " ++ fault.message
  | .homeNotFound => "Home directory not found"

def parts : Failure → String
  | .invalidBaseUrl url reason =>
    "InvalidBaseUrl \x7b url: " ++ Text.quoted url ++ ", reason: " ++ Text.quoted reason ++ " \x7d"
  | .missingBaseUrl => "MissingBaseUrl"
  | .client refusal => "Client(" ++ refusal.parts ++ ")"
  | .channelNotFound description => "ChannelNotFound(" ++ Text.quoted description ++ ")"
  | .fetch text => "Fetch(" ++ Text.quoted text ++ ")"
  | .settingsNotFound path => "SettingsNotFound \x7b path: " ++ Text.quoted path ++ " \x7d"
  | .files fault => "Io(" ++ fault.parts ++ ")"
  | .settings fault => "Config(" ++ fault.parts ++ ")"
  | .homeNotFound => "HomeNotFound"

end Failure

end ChannelFeed
