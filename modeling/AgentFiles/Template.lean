import AgentFiles.Failure
import AgentFiles.FileName

/-!
# Templates

Each kind has a template, which is the text that a new file of the kind starts with.
-/

namespace AgentFiles

structure Template where
  kind : Kind
  label : String
  /-- The suggested name without an extension. -/
  stem : String
  lines : List String

namespace Template

def body (template : Template) : String :=
  "\n".intercalate template.lines

def fileName (template : Template) : String :=
  FileName.complete template.stem template.kind.tag

def memory : Template where
  kind := .memory
  label := "CLAUDE.md (Project Context)"
  stem := "CLAUDE"
  lines := [
    "---",
    "name: project-expert",
    "description: Expert agent for this project with context on architecture and workflows",
    "---",
    "",
    "# Project Context",
    "",
    "## Overview",
    "Describe your project, its purpose, and main features here.",
    "",
    "## Architecture",
    "Explain the architectural decisions and structure.",
    "",
    "## Development Workflow",
    "Document your development process and conventions.",
    "",
    "## Key Decisions",
    "Record important architectural and design decisions.",
    ""]

def agent : Template where
  kind := .agent
  label := "Agent"
  stem := "my-agent"
  lines := [
    "---",
    "name: my-agent",
    "description: Brief description of what this agent does",
    "model: opus",
    "tools: [Read, Write, Edit, Bash]",
    "color: blue",
    "---",
    "",
    "# Agent Instructions",
    "",
    "## Purpose",
    "Describe what this agent specializes in.",
    "",
    "## Capabilities",
    "- List the agent's main capabilities",
    "- Explain what tasks it can perform",
    "- Define its scope of work",
    "",
    "## Guidelines",
    "Provide specific instructions on how the agent should:",
    "- Approach problems",
    "- Format responses",
    "- Handle edge cases",
    ""]

def command : Template where
  kind := .command
  label := "Slash Command"
  stem := "my-command"
  lines := [
    "---",
    "allowed-tools: [Read, Write, Bash]",
    "description: Brief description of this command",
    "argument-hint: <required-arg> [optional-arg]",
    "---",
    "",
    "# Command: /my-command",
    "",
    "Execute this command with: `/my-command <arguments>`",
    "",
    "## What it does",
    "Describe the purpose and functionality of this command.",
    "",
    "## Usage",
    "Provide examples of how to use this command:",
    "- `/my-command file.txt` - Description of what this does",
    "- `/my-command --option value` - Description with options",
    "",
    "## Arguments",
    "$ARGUMENTS will be replaced with the arguments you provide.",
    "",
    "Process the arguments: $ARGUMENTS",
    ""]

def skill : Template where
  kind := .skill
  label := "Skill"
  stem := "my-skill"
  lines := [
    "---",
    "name: my-skill",
    "description: Brief description of this skill",
    "tools: [Read, Write, Edit]",
    "---",
    "",
    "# Skill: My Skill",
    "",
    "## Purpose",
    "Describe what capability this skill provides.",
    "",
    "## Activation",
    "Explain when and how this skill should be used.",
    "",
    "## Instructions",
    "Provide detailed steps for executing this skill:",
    "1. First step",
    "2. Second step",
    "3. Third step",
    "",
    "## Best Practices",
    "- Guideline 1",
    "- Guideline 2",
    "- Guideline 3",
    ""]

def hook : Template where
  kind := .hook
  label := "Hook"
  stem := "my-hook"
  lines := [
    "---",
    "name: my-hook",
    "description: Brief description of this hook",
    "event: PostToolUse",
    "matcher: Write(*.md)",
    "---",
    "",
    "# Hook: My Hook",
    "",
    "## Trigger",
    "This hook triggers when: [describe the event]",
    "",
    "## Action",
    "Describe what this hook should do when triggered.",
    "",
    "## Configuration",
    "Explain any configuration options or parameters.",
    ""]

def outputStyle : Template where
  kind := .outputStyle
  label := "Output Style"
  stem := "my-style"
  lines := [
    "---",
    "name: my-style",
    "description: Brief description of this output style",
    "---",
    "",
    "# Output Style: My Style",
    "",
    "## Personality",
    "Describe the personality and tone Claude should adopt with this style.",
    "",
    "## Response Format",
    "Explain how responses should be structured:",
    "- Use specific formatting",
    "- Follow particular patterns",
    "- Include certain sections",
    "",
    "## Guidelines",
    "- Be [characteristic]",
    "- Always [behavior]",
    "- Never [anti-pattern]",
    "",
    "## Example Behavior",
    "Show an example of how Claude should respond with this style.",
    ""]

def settings : Template where
  kind := .settings
  label := "Settings (JSON)"
  stem := "settings"
  lines := [
    "\x7b",
    "  \"$schema\": \"./claude-code-settings.schema.json\",",
    "  \"model\": \"claude-sonnet-4-20250514\",",
    "  \"permissions\": \x7b",
    "    \"allow\": [",
    "      \"Bash(npm:*)\",",
    "      \"Bash(git:*)\",",
    "      \"Read(*)\"",
    "    ],",
    "    \"deny\": [",
    "      \"Bash(rm -rf)\",",
    "      \"Read(.env)\"",
    "    ]",
    "  \x7d,",
    "  \"hooks\": \x7b",
    "    \"PostToolUse\": []",
    "  \x7d,",
    "  \"env\": \x7b",
    "    \"NODE_ENV\": \"development\"",
    "  \x7d,",
    "  \"companyAnnouncements\": [",
    "    \"Welcome! Check our docs at docs.example.com\"",
    "  ]",
    "\x7d"]

def plugin : Template where
  kind := .plugin
  label := "Plugin Manifest"
  stem := "plugin"
  lines := [
    "\x7b",
    "  \"name\": \"my-plugin\",",
    "  \"description\": \"Brief description of this plugin\",",
    "  \"version\": \"1.0.0\",",
    "  \"author\": \x7b",
    "    \"name\": \"Your Name\",",
    "    \"email\": \"your.email@example.com\"",
    "  \x7d,",
    "  \"commands\": [",
    "    \"./commands/my-command.md\"",
    "  ],",
    "  \"agents\": [",
    "    \"./agents/my-agent.md\"",
    "  ],",
    "  \"skills\": [",
    "    \"./skills/my-skill.md\"",
    "  ],",
    "  \"hooks\": [],",
    "  \"strict\": false",
    "\x7d"]

def marketplace : Template where
  kind := .marketplace
  label := "Marketplace Catalog"
  stem := "marketplace"
  lines := [
    "\x7b",
    "  \"name\": \"my-marketplace\",",
    "  \"description\": \"Description of this plugin marketplace\",",
    "  \"version\": \"1.0.0\",",
    "  \"owner\": \x7b",
    "    \"name\": \"Your Name\",",
    "    \"email\": \"your.email@example.com\"",
    "  \x7d,",
    "  \"plugins\": [",
    "    \x7b",
    "      \"name\": \"example-plugin\",",
    "      \"source\": \"./example-plugin\",",
    "      \"description\": \"An example plugin\",",
    "      \"version\": \"1.0.0\",",
    "      \"category\": \"productivity\"",
    "    \x7d",
    "  ]",
    "\x7d"]

def all : List Template :=
  [memory, agent, command, skill, hook, outputStyle, settings, plugin, marketplace]

def ofKind : Kind -> Template
  | .memory => memory
  | .command => command
  | .agent => agent
  | .skill => skill
  | .hook => hook
  | .outputStyle => outputStyle
  | .settings => settings
  | .plugin => plugin
  | .marketplace => marketplace

def ofTag (tag : String) : Except Failure Template :=
  (Kind.ofTag tag).map ofKind

def choices : List (String × String) :=
  all.map fun template => (template.kind.tag, template.label)

end Template
end AgentFiles
