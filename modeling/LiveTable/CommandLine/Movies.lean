import LiveTable.Value.Basic

/-!
# Movies

* `movies`: the rows that are shown when no file is given.
-/

namespace LiveTable.CommandLine

/-- The row of a movie. -/
def movie (name rating director year actor : String) : Value :=
  .object [("name", .string name), ("rating", .string rating), ("director", .string director),
    ("year", .string year), ("actor", .string actor)]

/-- The rows that are shown when no file is given. -/
def movies : List Value :=
  [movie "Once Upon a Time in the West" "8.7" "Sergio Leone" "1968" "Henry Fonda",
   movie "Terminator 2: Judgment Day" "8.6" "James Cameron" "1991" "Arnold Schwarzenegger",
   movie "Braveheart" "8.4" "Mel Gibson" "1995" "Mel Gibson",
   movie "Oldboy" "8.4" "Chan-wook Park" "2003" "Min-sik Choi",
   movie "Witness for the Prosecution" "8.4" "Billy Wilder" "1957" "Tyrone Power",
   movie "Chinatown" "8.4" "Roman Polanski" "1974" "Jack Nicholson",
   movie "Amadeus" "8.4" "Milos Forman" "1984" "F. Murray Abraham",
   movie "Cool Hand Luke" "8.2" "Stuart Rosenberg" "1967" "Paul Newman",
   movie "Ran" "8.3" "Akira Kurosawa" "1985" "Tatsuya Nakadai",
   movie "Warrior" "8.2" "Gavin O'Connor" "2011" "Tom Hardy",
   movie "Butch Cassidy and the Sundance Kid" "8.2" "George Roy Hill" "1969" "Paul Newman",
   movie "Into the Wild" "8.2" "Sean Penn" "2007" "Emile Hirsch",
   movie "The Night of the Hunter" "8.2" "Charles Laughton" "1955" "Robert Mitchum",
   movie "Persona" "8.2" "Ingmar Bergman" "1966" "Bibi Andersson",
   movie "The Killing" "8.1" "Stanley Kubrick" "1956" "Sterling Hayden",
   movie "Inherit the Wind" "8.1" "Stanley Kramer" "1960" "Spencer Tracy",
   movie "8½" "8.1" "Federico Fellini" "1963" "Marcello Mastroianni",
   movie "Anatomy of a Murder" "8.1" "Otto Preminger" "1959" "James Stewart",
   movie "The Graduate" "8.1" "Mike Nichols" "1967" "Dustin Hoffman",
   movie "The Man Who Shot Liberty Valance" "8.1" "John Ford" "1962" "James Stewart",
   movie "The Wild Bunch" "8.1" "Sam Peckinpah" "1969" "William Holden",
   movie "Roman Holiday" "8.1" "William Wyler" "1953" "Gregory Peck",
   movie "Barry Lyndon" "8.1" "Stanley Kubrick" "1975" "Ryan O'Neal",
   movie "Rio Bravo" "8.0" "Howard Hawks" "1959" "John Wayne",
   movie "Elite Squad: The Enemy Within" "8.1" "José Padilha" "2010" "Wagner Moura",
   movie "Charade" "8.0" "Stanley Donen" "1963" "Cary Grant",
   movie "What Ever Happened to Baby Jane?" "8.0" "Robert Aldrich" "1962" "Bette Davis",
   movie "The Return" "8.0" "Andrey Zvyagintsev" "2003" "Vladimir Garin",
   movie "Let the Right One In" "8.0" "Tomas Alfredson" "2008" "Kåre Hedebrant",
   movie "The Big Heat" "8.0" "Fritz Lang" "1953" "Glenn Ford",
   movie "Being There" "8.0" "Hal Ashby" "1979" "Peter Sellers",
   movie "Shame" "7.9" "Ingmar Bergman" "1968" "Liv Ullmann",
   movie "Jean de Florette" "7.9" "Claude Berri" "1986" "Yves Montand",
   movie "This Is Spinal Tap" "8.0" "Rob Reiner" "1984" "Rob Reiner",
   movie "Midnight Cowboy" "8.0" "John Schlesinger" "1969" "Dustin Hoffman",
   movie "Days of Heaven" "7.9" "Terrence Malick" "1978" "Richard Gere",
   movie "A Man for All Seasons" "7.9" "Fred Zinnemann" "1966" "Paul Scofield",
   movie "A Raisin in the Sun" "7.9" "Daniel Petrie" "1961" "Sidney Poitier",
   movie "Head-On" "7.9" "Fatih Akin" "2004" "Birol Ãœnel",
   movie "No Man's Land" "7.9" "Danis Tanovic" "2001" "Branko Djuric",
   movie "Miller's Crossing" "7.9" "Joel Coen" "1990" "Gabriel Byrne",
   movie "The Sacrifice" "7.9" "Andrei Tarkovskij" "1986" "Erland Josephson",
   movie "Crash" "7.9" "Paul Haggis" "2004" "Don Cheadle",
   movie "Kagemusha" "7.9" "Akira Kurosawa" "1980" "Tatsuya Nakadai",
   movie "Forbidden Games" "7.9" "René Clément" "1952" "Georges Poujouly",
   movie "One, Two, Three" "7.9" "Billy Wilder" "1961" "James Cagney",
   movie "Hud" "7.9" "Martin Ritt" "1963" "Paul Newman",
   movie "4 Months, 3 Weeks and 2 Days" "7.9" "Cristian Mungiu" "2007" "Anamaria Marinca",
   movie "Ferris Bueller's Day Off" "7.9" "John Hughes" "1986" "Matthew Broderick",
   movie "The Iron Giant" "7.9" "Brad Bird" "1999" "Eli Marienthal",
   movie "Kannathil Muthamittal" "7.9" "Mani Ratnam" "2002" "Madhavan",
   movie "The Innocents" "7.8" "Jack Clayton" "1961" "Deborah Kerr",
   movie "Diary of a Country Priest" "7.8" "Robert Bresson" "1951" "Claude Laydu",
   movie "Simon" "7.8" "Eddy Terstall" "2004" "Cees Geel",
   movie "The Man from Nowhere" "7.8" "Jeong-beom Lee" "2010" "Bin Won",
   movie "Evil Dead II" "7.8" "Sam Raimi" "1987" "Bruce Campbell",
   movie "Landscape in the Mist" "7.8" "Theodoros Angelopoulos" "1988" "Michalis Zeke",
   movie "The World's Fastest Indian" "7.8" "Roger Donaldson" "2005" "Anthony Hopkins",
   movie "Salaam Bombay!" "7.8" "Mira Nair" "1988" "Shafiq Syed",
   movie "The Girl with the Dragon Tattoo" "7.8" "Niels Arden Oplev" "2009" "Michael Nyqvist",
   movie "The Train" "7.8" "John Frankenheimer" "1964" "Burt Lancaster",
   movie "The Edge of Heaven" "7.8" "Fatih Akin" "2007" "Baki Davrak",
   movie "The Last Emperor" "7.8" "Bernardo Bertolucci" "1987" "John Lone",
   movie "I Saw the Devil" "7.8" "Jee-woon Kim" "2010" "Byung-hun Lee",
   movie "Johnny Got His Gun" "7.8" "Dalton Trumbo" "1971" "Timothy Bottoms",
   movie "Serpico" "7.8" "Sidney Lumet" "1973" "Al Pacino",
   movie "After the Wedding" "7.7" "Susanne Bier" "2006" "Mads Mikkelsen",
   movie "True Grit" "7.8" "Ethan CoenJoel Coen" "2010" "Jeff Bridges",
   movie "The Last of the Mohicans" "7.7" "Michael Mann" "1992" "Daniel Day-Lewis",
   movie "A Place in the Sun" "7.7" "George Stevens" "1951" "Montgomery Clift",
   movie "South Park: Bigger Longer & Uncut" "7.7" "Trey Parker" "1999" "Trey Parker",
   movie "The Gospel According to St. Matthew" "7.7" "Pier Paolo Pasolini" "1964"
      "Enrique Irazoqui",
   movie "Barton Fink" "7.7" "Joel Coen" "1991" "John Turturro",
   movie "Kramer vs. Kramer" "7.7" "Robert Benton" "1979" "Dustin Hoffman",
   movie "Mysterious Skin" "7.7" "Gregg Araki" "2004" "Brady Corbet",
   movie "Guess Who's Coming to Dinner" "7.7" "Stanley Kramer" "1967" "Spencer Tracy",
   movie "The Defiant Ones" "7.7" "Stanley Kramer" "1958" "Tony Curtis",
   movie "The Court Jester" "7.7" "Melvin FrankNorman Panama" "1955" "Danny Kaye",
   movie "Dead Man's Shoes" "7.7" "Shane Meadows" "2004" "Paddy Considine",
   movie "The Taking of Pelham One Two Three" "7.7" "Joseph Sargent" "1974" "Walter Matthau",
   movie "Forbidden Planet" "7.7" "Fred McLeod Wilcox" "1956" "Walter Pidgeon",
   movie "Hamlet" "7.7" "Kenneth Branagh" "1996" "Kenneth Branagh",
   movie "Star Trek II: The Wrath of Khan" "7.7" "Nicholas Meyer" "1982" "William Shatner",
   movie "Black Hawk Down" "7.7" "Ridley Scott" "2001" "Josh Hartnett",
   movie "Withnail & I" "7.7" "Bruce Robinson" "1987" "Richard E. Grant",
   movie "The Haunting" "7.7" "Robert Wise" "1963" "Julie Harris",
   movie "Kes" "7.7" "Kenneth Loach" "1969" "David Bradley",
   movie "The Wicker Man" "7.7" "Robin Hardy" "1973" "Edward Woodward",
   movie "Hugo" "7.6" "Martin Scorsese" "2011" "Asa Butterfield",
   movie "Show Me Love" "7.7" "Lukas Moodysson" "1998" "Alexandra Dahlström",
   movie "A Fish Called Wanda" "7.6" "Charles Crichton" "1988" "John Cleese",
   movie "The Producers" "7.6" "Mel Brooks" "1968" "Zero Mostel",
   movie "Hour of the Wolf" "7.6" "Ingmar Bergman" "1968" "Max von Sydow",
   movie "Detachment" "7.6" "Tony Kaye" "2011" "Adrien Brody",
   movie "A Pure Formality" "7.6" "Giuseppe Tornatore" "1994" "Gérard Depardieu",
   movie "Marathon" "7.7" "Yoon-Chul Jeong" "2005" "Seung-woo Cho",
   movie "Where Eagles Dare" "7.6" "Brian G. Hutton" "1968" "Richard Burton",
   movie "The Spy Who Came in from the Cold" "7.6" "Martin Ritt" "1965" "Richard Burton",
   movie "You Can Count on Me" "7.6" "Kenneth Lonergan" "2000" "Laura Linney",
   movie "The Passion of Anna" "7.6" "Ingmar Bergman" "1969" "Liv Ullmann",
   movie "13 Assassins" "7.6" "Takashi Miike" "2010" "Kôji Yakusho",
   movie "Y Tu Mamá También" "7.6" "Alfonso Cuarón" "2001" "Maribel Verdú",
   movie "The Warriors" "7.6" "Walter Hill" "1979" "Michael Beck",
   movie "Dangerous Liaisons" "7.6" "Stephen Frears" "1988" "Glenn Close",
   movie "The Long Goodbye" "7.6" "Robert Altman" "1973" "Elliott Gould",
   movie "The Trap" "7.6" "Srdan Golubovic" "2007" "Nebojsa Glogovac",
   movie "Saturday Night and Sunday Morning" "7.6" "Karel Reisz" "1960" "Albert Finney",
   movie "What's Up, Doc?" "7.6" "Peter Bogdanovich" "1972" "Barbra Streisand",
   movie "Escape from Alcatraz" "7.6" "Donald Siegel" "1979" "Clint Eastwood",
   movie "Play It Again, Sam" "7.6" "Herbert Ross" "1972" "Woody Allen",
   movie "Mafioso" "7.6" "Alberto Lattuada" "1962" "Alberto Sordi",
   movie "Europa Europa" "7.6" "Agnieszka Holland" "1990" "Solomon Perel",
   movie "Buffet Froid" "7.6" "Bertrand Blier" "1979" "Gérard Depardieu",
   movie "Following" "7.6" "Christopher Nolan" "1998" "Jeremy Theobald",
   movie "The Professional" "7.6" "Georges Lautner" "1981" "Jean-Paul Belmondo",
   movie "Tucker and Dale vs Evil" "7.6" "Eli Craig" "2010" "Tyler Labine",
   movie "Falling Down" "7.6" "Joel Schumacher" "1993" "Michael Douglas",
   movie "Eat Drink Man Woman" "7.6" "Ang Lee" "1994" "Sihung Lung",
   movie "Good Night, and Good Luck." "7.6" "George Clooney" "2005" "David Strathairn",
   movie "El Dorado" "7.6" "Howard Hawks" "1966" "John Wayne",
   movie "The Wild Child" "7.5" "François Truffaut" "1970" "François Truffaut",
   movie "Gallipoli" "7.5" "Peter Weir" "1981" "Mel Gibson",
   movie "Water" "7.6" "Deepa Mehta" "2005" "Lisa Ray",
   movie "Hunger" "7.6" "Steve McQueen" "2008" "Stuart Graham",
   movie "Brothers" "7.5" "Susanne Bier" "2004" "Ulrich Thomsen",
   movie "An American Werewolf in London" "7.5" "John Landis" "1981" "David Naughton",
   movie "Senso" "7.5" "Luchino Visconti" "1954" "Farley Granger",
   movie "The Time Machine" "7.5" "George Pal" "1960" "Rod Taylor",
   movie "Swimming to Cambodia" "7.5" "Jonathan Demme" "1987" "Spalding Gray",
   movie "Lilies of the Field" "7.5" "Ralph Nelson" "1963" "Sidney Poitier",
   movie "Drunken Master" "7.5" "Woo-ping Yuen" "1978" "Jackie Chan",
   movie "Separate Tables" "7.5" "Delbert Mann" "1958" "Rita Hayworth",
   movie "Happy Together" "7.5" "Kar Wai Wong" "1997" "Leslie Cheung",
   movie "A Woman Is a Woman" "7.5" "Jean-Luc Godard" "1961" "Anna Karina",
   movie "When the Last Sword is Drawn" "7.5" "Yôjirô Takita" "2003" "Kiichi Nakai",
   movie "A Little Princess" "7.5" "Alfonso Cuarón" "1995" "Liesel Matthews",
   movie "Jeremiah Johnson" "7.5" "Sydney Pollack" "1972" "Robert Redford",
   movie "Ip Man 2: Legend of the Grandmaster" "7.5" "Wilson Yip" "2010" "Donnie Yen",
   movie "Star Trek: First Contact" "7.5" "Jonathan Frakes" "1996" "Patrick Stewart",
   movie "The Friends of Eddie Coyle" "7.5" "Peter Yates" "1973" "Robert Mitchum",
   movie "Ghost Dog: The Way of the Samurai" "7.5" "Jim Jarmusch" "1999" "Forest Whitaker",
   movie "Headhunters" "7.5" "Morten Tyldum" "2011" "Aksel Hennie",
   movie "Tyrannosaur" "7.5" "Paddy Considine" "2011" "Peter Mullan",
   movie "Prisoner of the Mountains" "7.5" "Sergey Bodrov" "1996" "Oleg Menshikov",
   movie "A Time for Drunken Horses" "7.5" "Bahman Ghobadi" "2000" "Ayoub Ahmadi",
   movie "To Catch a Thief" "7.5" "Alfred Hitchcock" "1955" "Cary Grant",
   movie "Perfume: The Story of a Murderer" "7.5" "Tom Tykwer" "2006" "Ben Whishaw",
   movie "Three Days of the Condor" "7.5" "Sydney Pollack" "1975" "Robert Redford",
   movie "Undertow" "7.4" "Javier Fuentes-León" "2009" "Cristian Mercado",
   movie "Tell No One" "7.5" "Guillaume Canet" "2006" "François Cluzet",
   movie "Witness" "7.5" "Peter Weir" "1985" "Harrison Ford",
   movie "Babel" "7.5" "Alejandro González Iñárritu" "2006" "Brad Pitt",
   movie "The Secret of Kells" "7.5" "Tomm MooreNora Twomey" "2009" "Evan McGuire",
   movie "Fallen Angels" "7.5" "Kar Wai Wong" "1995" "Leon Lai",
   movie "Flickering Lights" "7.5" "Anders Thomas Jensen" "2000" "Søren Pilmark",
   movie "Of Mice and Men" "7.5" "Gary Sinise" "1992" "John Malkovich",
   movie "Mother of Mine" "7.5" "Klaus Härö" "2005" "Topi Majaniemi",
   movie "Searching for Bobby Fischer" "7.5" "Steven Zaillian" "1993" "Joe Mantegna",
   movie "The Hours" "7.5" "Stephen Daldry" "2002" "Meryl Streep",
   movie "Attack" "7.5" "Robert Aldrich" "1956" "Jack Palance",
   movie "Small Change" "7.5" "François Truffaut" "1976" "Georges Desmouceaux",
   movie "Cherry Blossoms" "7.5" "Doris Dörrie" "2008" "Elmar Wepper",
   movie "Kansas City Confidential" "7.4" "Phil Karlson" "1952" "John Payne",
   movie "The Wedding Banquet" "7.5" "Ang Lee" "1993" "Winston Chao",
   movie "Rabid Dogs" "7.4" "Mario Bava" "1974" "Lea Lander",
   movie "All or Nothing" "7.4" "Mike Leigh" "2002" "Timothy Spall",
   movie "The Man with the Golden Arm" "7.4" "Otto Preminger" "1955" "Frank Sinatra",
   movie "In the Loop" "7.4" "Armando Iannucci" "2009" "Tom Hollander",
   movie "Keith" "7.4" "Todd Kessler" "2008" "Elisabeth Harnois",
   movie "Atlantic City" "7.4" "Louis Malle" "1980" "Burt Lancaster",
   movie "Girl on the Bridge" "7.4" "Patrice Leconte" "1999" "Vanessa Paradis",
   movie "Waiting for Guffman" "7.4" "Christopher Guest" "1996" "Christopher Guest",
   movie "Secret" "7.4" "Jay Chou" "2007" "Jay Chou",
   movie "Don't Look Now" "7.4" "Nicolas Roeg" "1973" "Julie Christie",
   movie "Capote" "7.4" "Bennett Miller" "2005" "Philip Seymour Hoffman",
   movie "I Want to Live!" "7.4" "Robert Wise" "1958" "Susan Hayward",
   movie "Trade" "7.4" "Marco Kreuzpaintner" "2007" "Kevin Kline",
   movie "The Big Combo" "7.4" "Joseph Lewis" "1955" "Richard Conte",
   movie "Autumn Spring" "7.4" "Vladimír Michálek" "2001" "Vlastimil Brodský",
   movie "Trading Places" "7.4" "John Landis" "1983" "Eddie Murphy",
   movie "Salt of the Earth" "7.4" "Herbert J. Biberman" "1954" "Juan Chacón",
   movie "School for Scoundrels" "7.4" "Robert Hamer" "1960" "Ian Carmichael",
   movie "The Secret of NIMH" "7.4" "Don Bluth" "1982" "Elizabeth Hartman",
   movie "The Adventures of Tintin" "7.4" "Steven Spielberg" "2011" "Jamie Bell",
   movie "The Aura" "7.4" "Fabián Bielinsky" "2005" "Ricardo Darín",
   movie "Murder by Death" "7.4" "Robert Moore" "1976" "Peter Falk",
   movie "Mission: Impossible - Ghost Protocol" "7.4" "Brad Bird" "2011" "Tom Cruise",
   movie "The Color of Pomegranates" "7.3" "Sergei Parajanov" "1968" "Sofiko Chiaureli",
   movie "Best in Show" "7.4" "Christopher Guest" "2000" "Fred Willard",
   movie "Hustle & Flow" "7.4" "Craig Brewer" "2005" "Terrence Howard",
   movie "Freedom Writers" "7.4" "Richard LaGravenese" "2007" "Hilary Swank",
   movie "Summer and Smoke" "7.4" "Peter Glenville" "1961" "Laurence Harvey",
   movie "D.O.A." "7.4" "Rudolph Maté" "1950" "Edmond O'Brien",
   movie "Lawn Dogs" "7.4" "John Duigan" "1997" "Sam Rockwell",
   movie "The Good Time Girls" "7.4" "Claude Chabrol" "1960" "Bernadette Lafont",
   movie "Excalibur" "7.3" "John Boorman" "1981" "Nigel Terry",
   movie "The Sun" "7.3" "Aleksandr Sokurov" "2005" "Issei Ogata",
   movie "Red Cliff" "7.3" "John Woo" "2008" "Tony Leung Chiu Wai",
   movie "The Naked Kiss" "7.3" "Samuel Fuller" "1964" "Constance Towers",
   movie "My Name Is Nobody" "7.3" "Tonino Valerii" "1973" "Terence Hill"]

end LiveTable.CommandLine
